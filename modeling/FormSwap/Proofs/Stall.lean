import FormSwap.Proofs.Wakeups

/-!
# No component is stuck

After a run nothing is queued, so a component that is submitting then stays so until it is woken.
Its pipeline is pending on exactly one thing that can still happen: a deferred reply that is not
settled, or a sleep that is registered with the clock. The clock has no other waiters except those
of the user's sleeps.

Main results:

- `Waits.xor_of_liveAt`: a live pipeline is pending on a reply or on a sleep, and not on both
- `Waits.length_waiters`: the clock has one waiter for each pending sleep of a component or the user
- `busy_components_wait`: both on every page after a run
-/

namespace FormSwap.Page

/-! ## Pending pipelines -/

/-- `p.awaitsReply s`: `s` is pending on a deferred reply that is not settled. -/
def awaitsReply (p : Page) (s : PipelineId) : Bool :=
  match p.pipelines[s]? with
  | some { stage := .awaiting (.awaiting d) _, .. } => p.transport.isPending d
  | _ => false

/-- `p.isSleeping s`: `s` is pending on a sleep that is registered and not over. -/
def isSleeping (p : Page) (s : PipelineId) : Bool :=
  match p.pipelines[s]? with
  | some { stage := .settling { deadline, id := some id }, .. } =>
    p.clock.waiters.contains ⟨id, deadline, some s⟩ && decide (p.clock.now < deadline)
  | _ => false

/-- `p.hasSleep c`: the pipeline in flight of `c` is pending on a sleep. -/
def hasSleep (p : Page) (c : ComponentId) : Bool :=
  (p.component? c).any fun k => k.state == .submitting && k.inFlight.any p.isSleeping

/-- `p.userSleeps n`: the sleep `n` of the user was polled and is not over. -/
def userSleeps (p : Page) (n : Nat) : Bool :=
  ((p.sleeps[n]?).join).any fun sleep =>
    sleep.id.isSome && decide (p.clock.now < sleep.deadline)

/-- `p.NoneDue`: no pipeline is due for a poll. -/
def NoneDue (p : Page) : Prop :=
  ∀ (s : PipelineId) (pipe : Pipeline), p.pipelines[s]? = some pipe → pipe.isDue = false

/-- `p.inFlightPipelines` lists the pipelines in flight of the components. -/
def inFlightPipelines (p : Page) : List PipelineId :=
  (List.range p.components.length).filterMap fun c => (p.component? c).bind (·.inFlight)

section Stalled

variable {p q : Page} {queue : List PipelineId} {c : ComponentId} {s : PipelineId}

/-- Runs and sweeps leave empty queues empty. -/
theorem Course.queues_empty {n : Nat} (h : Course (fun k => RunScope n k ∨ SweepScope k) p q)
    (hp : p.woken = [] ∧ p.spawned = []) : q.woken = [] ∧ q.spawned = [] := by
  refine h.keeps (I := fun r => r.woken = [] ∧ r.spawned = []) (fun k r r' hk move ih => ?_) hp
  cases move with
  | tree e =>
    obtain ⟨_, _, _, rfl⟩ := e.kept.only
    exact ih
  | clear => exact ⟨rfl, rfl⟩
  | mark | create | bind | unbind | rebind | replace | adopt | drop | refuse | ask | await | sleep
  | finish | finishGone | dropAborted | advance | pollSleep | dropSleep | fault | mend | note
  | other =>
    exact ih
  | disconnect | start | wake => exact (hk.elim id id).elim

/-- Nothing is queued after a run. -/
theorem perform_run_queues (p : Page) :
    (p.perform .run).1.woken = [] ∧ (p.perform .run).1.spawned = [] := by
  have hpolls : Course (fun k => RunScope p.hosts.length k ∨ SweepScope k)
      { p with woken := [], spawned := [] } p.run :=
    (polls_course _ (Nat.le_refl _)).mono fun _ => .inl
  exact (hpolls.trans ((sweep_course p.run).mono fun _ => .inr)).queues_empty ⟨rfl, rfl⟩

/-- `waiterFor` is set exactly if the sleep has an id and is not over. -/
theorem isSome_waiterFor {clock : ManualClock} {sleep : Sleep} {waker : Option Nat} :
    (clock.waiterFor waker sleep).isSome =
      (sleep.id.isSome && decide (clock.now < sleep.deadline)) := by
  unfold ManualClock.waiterFor
  by_cases hover : sleep.deadline ≤ clock.now
  · have hnot : ¬ clock.now < sleep.deadline := fun hlt => Duration.not_le.mpr hlt hover
    simp [hover, hnot]
  · simp [hover, Duration.not_le.mp hover]

theorem userSleeps_eq (p : Page) (n : Nat) :
    p.userSleeps n = ((p.sleepOf (.user n)).bind (p.clock.waiterFor none)).isSome := by
  simp only [userSleeps, sleepOf]
  cases (p.sleeps[n]?).join with
  | none => rfl
  | some sleep => exact isSome_waiterFor.symm

/-- `isSleeping` from `waiterFor`. -/
theorem Waits.isSleeping_eq (h : p.Waits queue) (s : PipelineId) :
    p.isSleeping s = ((p.sleepOf (.pipeline s)).bind (p.clock.waiterFor (some s))).isSome := by
  unfold isSleeping
  cases hpipe : p.pipelines[s]? with
  | none => simp [sleepOf, hpipe]
  | some pipe =>
    obtain ⟨owner, stage, aborted⟩ := pipe
    cases stage with
    | accepted | awaiting | finished => simp [sleepOf, hpipe, Stage.sleep?]
    | settling sleep =>
      have hheld : p.sleepOf (.pipeline s) = some sleep := by simp [sleepOf, hpipe, Stage.sleep?]
      obtain ⟨deadline, id⟩ := sleep
      rw [hheld, Option.bind_some, isSome_waiterFor]
      cases id with
      | none => rfl
      | some id =>
        by_cases hlate : p.clock.now < deadline
        · have hlisted : ⟨id, deadline, some s⟩ ∈ p.clock.waiters :=
            (h.sleeps.listed _).mpr ⟨.pipeline s, _, hheld,
              ManualClock.waiterFor_eq_some_iff.mpr ⟨Duration.not_le.mpr hlate, rfl, rfl, rfl⟩⟩
          simp [hlate, hlisted]
        · simp [hlate]

/-- A live pipeline is pending on a reply or on a sleep, and not on both. -/
theorem Waits.xor_of_liveAt (h : p.Waits []) (hcalls : p.CallsSent)
    (hdue : p.NoneDue) (hlive : p.LiveAt c s) :
    (p.awaitsReply s ^^ p.isSleeping s) = true := by
  obtain ⟨⟨owner, stage, aborted⟩, hpipe, -, hl⟩ := hlive
  have hnot := hdue s _ hpipe
  have hheard : p.isAborted s = false := by
    simp only [isAborted, hpipe, Option.any_some]
    exact (Pipeline.isLive_iff.mp hl).2
  cases stage with
  | finished => cases hl
  -- a new pipeline would be due, which no pipeline is after a run
  | accepted => simp [Pipeline.isDue, Pipeline.isOpen, Stage.rank] at hnot
  | awaiting call payload =>
    -- its request was sent in an earlier poll, so it awaits a reply
    obtain ⟨d, rfl⟩ := hcalls s _ call payload hpipe rfl
    have hreply : p.replyOf s = some d := by simp [replyOf, hpipe, Stage.reply?]
    have hpending : p.transport.isPending d = true := by
      rcases h.awaiting s d hreply hheard with hpending | hqueued
      · exact hpending
      · cases hqueued
    simp [awaitsReply, isSleeping, hpipe, hpending]
  | settling sleep =>
    have hheld : p.sleepOf (.pipeline s) = some sleep := by simp [sleepOf, hpipe, Stage.sleep?]
    have hsleeping : p.isSleeping s = true := by
      rcases h.sleeping s sleep hheld hheard with ⟨hid, hlate⟩ | hqueued
      · rw [h.isSleeping_eq, hheld, Option.bind_some, isSome_waiterFor]
        simp [hid, Duration.not_le.mp hlate]
      · cases hqueued
    simp [awaitsReply, hpipe, hsleeping]

/-! ## Counting the waiters -/

theorem mem_inFlightPipelines :
    s ∈ p.inFlightPipelines ↔ ∃ c k, p.component? c = some k ∧ k.inFlight = some s := by
  unfold inFlightPipelines
  rw [List.mem_filterMap]
  constructor
  · rintro ⟨c, -, hc⟩
    obtain ⟨k, hk, hs⟩ := Option.bind_eq_some_iff.mp hc
    exact ⟨c, k, hk, hs⟩
  · rintro ⟨c, k, hk, hs⟩
    exact ⟨c, List.mem_range.mpr (lt_of_component? hk), Option.bind_eq_some_iff.mpr ⟨k, hk, hs⟩⟩

/-- No pipeline is in flight for two components. -/
theorem InStep.nodup_inFlightPipelines (h : p.InStep) : p.inFlightPipelines.Nodup := by
  refine List.nodup_range.filterMap fun c d s hc hd => ?_
  obtain ⟨k, hk, hs⟩ := Option.bind_eq_some_iff.mp hc
  obtain ⟨k', hk', hs'⟩ := Option.bind_eq_some_iff.mp hd
  exact InStep.owner_unique ((h.flight c k hk s).mp hs) ((h.flight d k' hk' s).mp hs')

/-- A pipeline with a sleep that is not due is the one in flight of its owner. -/
theorem InStep.mem_inFlightPipelines_of_sleep (h : p.InStep)
    (hdue : p.NoneDue) {sleep : Sleep}
    (hsleep : p.sleepOf (.pipeline s) = some sleep) : s ∈ p.inFlightPipelines := by
  obtain ⟨⟨owner, stage, aborted⟩, hpipe, hstage⟩ := Option.bind_eq_some_iff.mp hsleep
  cases stage with
  | accepted | awaiting | finished => cases hstage
  | settling sleep =>
    have hnot := hdue s _ hpipe
    have ha : aborted = false := by
      simpa [Pipeline.isDue, Pipeline.isOpen, Stage.rank] using hnot
    subst ha
    obtain ⟨k, hk⟩ := Option.isSome_iff_exists.mp (h.owned s _ hpipe rfl)
    exact mem_inFlightPipelines.mpr ⟨owner, k, hk, (h.flight owner k hk s).mpr ⟨_, hpipe, rfl, rfl⟩⟩

/-- The number of pipelines in flight with a waiter, counted by components. -/
theorem Waits.countP_inFlightPipelines (h : p.Waits queue) (hp : p.InStep) :
    p.inFlightPipelines.countP (fun s => ((p.sleepOf (.pipeline s)).bind
      (p.clock.waiterFor (some s))).isSome) =
      (List.range p.components.length).countP p.hasSleep := by
  unfold inFlightPipelines
  rw [List.countP_filterMap]
  refine List.countP_congr fun c _ => ?_
  unfold hasSleep
  cases hk : p.component? c with
  | none => simp
  | some k =>
    cases hf : k.inFlight with
    | none => simp [hf]
    | some s =>
      have hbusy : k.state = .submitting := (hp.busy c k hk).mpr (by rw [hf]; rfl)
      simp [hf, hbusy, h.isSleeping_eq s]

/-- The clock has one waiter for each pending sleep of a component or of the user. -/
theorem Waits.length_waiters (h : p.Waits queue) (hp : p.InStep)
    (hdue : p.NoneDue) :
    p.clock.waiters.length = (List.range p.components.length).countP p.hasSleep +
      (List.range p.sleeps.length).countP p.userSleeps := by
  -- the owners of sleeps: the pipelines in flight, and the user once for each sleep
  have hnodup : (p.inFlightPipelines.map SleepOwner.pipeline ++
      (List.range p.sleeps.length).map SleepOwner.user).Nodup := by
    refine List.nodup_append.mpr ⟨?_, ?_, fun x hx y hy => ?_⟩
    · exact hp.nodup_inFlightPipelines.map fun _ _ heq => SleepOwner.pipeline.inj heq
    · exact List.nodup_range.map fun _ _ heq => SleepOwner.user.inj heq
    · obtain ⟨s, -, rfl⟩ := List.mem_map.mp hx
      obtain ⟨n, -, rfl⟩ := List.mem_map.mp hy
      intro heq
      cases heq
  rw [h.sleeps.length_waiters hnodup, List.countP_append, List.countP_map, List.countP_map]
  · congr 1
    · exact h.countP_inFlightPipelines hp
    · exact List.countP_congr fun n _ => by rw [userSleeps_eq]; rfl
  · intro x sleep w hx _
    cases x with
    | pipeline s =>
      exact List.mem_append_left _ (List.mem_map_of_mem (hp.mem_inFlightPipelines_of_sleep hdue hx))
    | user n =>
      have hget := Option.join_eq_some_iff.mp hx
      have hlt : n < p.sleeps.length := (List.getElem?_eq_some_iff.mp hget).1
      exact List.mem_append_right _ (List.mem_map_of_mem (List.mem_range.mpr hlt))

end Stalled

/-- After a run nothing is queued. A component that is submitting then has one live pipeline, which
is pending either on a deferred reply that is not settled or on a sleep that is registered and not
over. The clock has one waiter for each component that is pending on a sleep and for each sleep of
the user that was polled and is not over, and no other. -/
theorem busy_components_wait {p : Page} (h : p.Reachable) :
    let q := (p.perform .run).1
    q.woken = [] ∧ q.spawned = [] ∧
    (∀ c k, q.component? c = some k → k.state = .submitting →
      ∃ s, k.inFlight = some s ∧ (∀ t, q.LiveAt c t ↔ t = s) ∧
        (q.awaitsReply s ^^ q.isSleeping s) = true) ∧
    q.clock.waiters.length = (List.range q.components.length).countP q.hasSleep +
      (List.range q.sleeps.length).countP q.userSleeps := by
  intro q
  have hvisited : q.Visited := (h.perform .run).visited
  have hwaits : q.Waits [] := h.run_waits
  have hdue : q.NoneDue := fun t pipe hpipe => perform_run_due h.dueQueued hpipe
  obtain ⟨hwoken, hspawned⟩ := perform_run_queues p
  refine ⟨hwoken, hspawned, fun c k hk hbusy => ?_, ?_⟩
  · obtain ⟨s, hs⟩ := Option.isSome_iff_exists.mp ((hvisited.inStep.busy c k hk).mp hbusy)
    have hlive : q.LiveAt c s := (hvisited.inStep.flight c k hk s).mp hs
    refine ⟨s, hs, fun t => ⟨fun ht => ?_, fun ht => ht ▸ hlive⟩, ?_⟩
    · exact hvisited.inStep.live_unique ht hlive
    · exact hwaits.xor_of_liveAt hvisited.callsSent hdue hlive
  · exact hwaits.length_waiters hvisited.inStep hdue

/-- One component is pending on its reply, another one on a sleep. The user has polled one sleep,
and has created a second one without polling it: the clock has two waiters. -/
theorem busy_components_wait_two :
    let p := performAll {} [.newForm { action := "/save", method := "post" },
      .newHost [] (some 0) none false, .append 0 0, .createWith 0 {}, .attach 0,
      .newForm { action := "/send", method := "post" }, .newHost [] (some 1) none false,
      .append 0 1, .createWith 1 { delay := .ofMillis 10 }, .attach 1,
      .defer, .reply (.ok ⟨.ok, "<p>Sent</p>"⟩), .newSleep (.ofMillis 20), .pollSleep 0,
      .newSleep (.ofMillis 30), .handleSubmit 0 none, .handleSubmit 1 none]
    let q := (p.perform .run).1
    (∃ k s, q.component? 0 = some k ∧ k.state = .submitting ∧ k.inFlight = some s ∧
      (q.awaitsReply s ^^ q.isSleeping s) = true) ∧
    q.awaitsReply 0 = true ∧ q.isSleeping 1 = true ∧ q.clock.waiters.length = 2 ∧
    q.clock.waiters.length = (List.range q.components.length).countP q.hasSleep +
      (List.range q.sleeps.length).countP q.userSleeps := by
  intro p q
  obtain ⟨-, -, hwait, hcount⟩ := busy_components_wait (p := p) ⟨_, rfl⟩
  have hbusy : ((q.component? 0).any fun k => k.state == .submitting) = true := by decide +kernel
  obtain ⟨k, hk, hstate⟩ := (Option.any_eq_true _ _).mp hbusy
  obtain ⟨s, hs, -, hxor⟩ := hwait 0 k hk (by simpa using hstate)
  exact ⟨⟨k, s, hk, by simpa using hstate, hs, hxor⟩, by decide +kernel, by decide +kernel,
    by decide +kernel, hcount⟩

end FormSwap.Page
