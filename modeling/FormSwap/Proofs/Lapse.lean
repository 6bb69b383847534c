import FormSwap.Proofs.Kept
import FormSwap.Proofs.Mark
import FormSwap.Proofs.Release
import FormSwap.Proofs.SettleDelay

/-!
# Advancing the clock in steps

Advancing the clock in several steps, with runs in between, leaves the same components and hosts as
advancing it once: which pipelines are live after a run depends on the time only, and so do the
states of the components, the submitting attributes, and which components are kept.

Main results:

- `Lapse.liveAt_iff`: which pipelines are live after some time
- `Course.hostsLapsed`: a host after some time is as before, without the attributes of what has
  ended
- `AfterRun.isSome_iff`: which components remain depends on the live pipelines
- `settles_exactly`: submitting before the end of the settle delay, idle from then on, in whatever
  steps the clock is advanced
-/

namespace FormSwap

/-- `a.isPassage`: the action is `advance` or `run`. -/
def Action.isPassage : Action → Bool
  | .advance _ | .run => true
  | _ => false

theorem Action.isSparing_of_isPassage {a : Action} (ha : a.isPassage = true) :
    a.isSparing = true := by
  cases a with
  | advance | run => rfl
  | _ => cases ha

/-- `elapsed actions` is the time by which the actions advance the clock. -/
def elapsed : List Action → Duration
  | [] => 0
  | .advance span :: rest => span + elapsed rest
  | _ :: rest => elapsed rest

namespace Duration

theorem add_assoc (a b c : Duration) : a + b + c = a + (b + c) :=
  congrArg Duration.mk (Nat.add_assoc _ _ _)

end Duration

namespace Page

/-! ## Advances and runs -/

/-- `LapseScope` has the kinds of moves of advances and of polls of settling pipelines. -/
def LapseScope : Kind → Prop
  | .progress _ | .finish _ | .dropAborted _ | .clear | .wake | .clock => True
  | _ => False

/-- `Lapse p q`: `LapseScope` moves and sweeps lead from `p` to `q`, and every exchange of `p` goes
on. -/
structure Lapse (p q : Page) : Prop where
  course : Course (fun k => LapseScope k ∨ SweepScope k) p q
  still : ∀ c s, p.Exchanging c s → q.Exchanging c s
  /-- Queued pipelines settle or have ended. -/
  queue : ∀ s ∈ q.woken ++ q.spawned, q.Reached s 2

section Passing

variable {p q r : Page} {c : ComponentId} {s : PipelineId} {a : Action}

theorem Exchanging.not_reached (h : p.Exchanging c s) : ¬ p.Reached s 2 := by
  rintro ⟨pipe', hpipe', hrank⟩
  obtain ⟨pipe, hpipe, -, -, hexchange⟩ := h
  rw [hpipe] at hpipe'
  cases hpipe'
  have hle := Stage.isExchange_iff.mp hexchange
  omega

theorem Exchanging.of_same (h : p.Exchanging c s)
    (hs : q.pipelines[s]? = p.pipelines[s]?) : q.Exchanging c s := by
  obtain ⟨pipe, hpipe, hrest⟩ := h
  exact ⟨pipe, hs.trans hpipe, hrest⟩

/-- `poll` of a pipeline that settles or has ended makes `LapseScope` moves only. -/
theorem poll_lapse (h : p.Reached s 2) : Course LapseScope p (p.poll s) := by
  obtain ⟨pipe, hpipe, hrank⟩ := h
  unfold poll
  rw [hpipe]
  dsimp only
  split
  · rename_i ha
    rw [dropAborted_eq]
    exact .move (.dropAborted hpipe ha) trivial
  · rename_i ha
    cases hstage : pipe.stage with
    | accepted | awaiting => simp [hstage, Stage.rank] at hrank
    | settling sleep =>
      have hlive : pipe.isLive = true := by
        simpa [Pipeline.isLive, Pipeline.isOpen, hstage] using ha
      refine (settle_progress hpipe hlive (.inl hstage)).mono ?_
      rintro k (rfl | rfl) <;> trivial
    | finished => exact .refl p

theorem polls_lapse {l : List PipelineId} (hl : ∀ s ∈ l, p.Reached s 2) :
    Course LapseScope p (l.foldl poll p) ∧
      ∀ c s, p.Exchanging c s → (l.foldl poll p).Exchanging c s := by
  induction l generalizing p with
  | nil => exact ⟨.refl p, fun _ _ hs => hs⟩
  | cons t rest ih =>
    have hcourse := poll_lapse (hl t (by simp))
    obtain ⟨hrest, hstill⟩ := ih fun u hu => (hl u (by simp [hu])).course hcourse
    refine ⟨hcourse.trans hrest, fun c s hs => hstill c s (hs.of_same ?_)⟩
    -- another pipeline is polled
    refine (poll_polledAt p t).others s ?_
    rintro rfl
    exact hs.not_reached (hl s (by simp))

/-- `advance` wakes settling pipelines only. -/
theorem advance_queue (hp : p.Visited) (hqueue : ∀ s ∈ p.woken ++ p.spawned, p.Reached s 2)
    (span : Duration) :
    ∀ s ∈ (p.advance span).woken ++ (p.advance span).spawned, (p.advance span).Reached s 2 := by
  intro s hs
  refine Reached.course (p := p) ?_ (advance_course p span)
  have hspawned : (p.advance span).spawned = p.spawned := by
    obtain ⟨_, hadvance⟩ := advance_eq p span
    rw [hadvance]
  rw [hspawned, List.mem_append] at hs
  rcases hs with hwoken | hnew
  · rcases woken_of_wakes hwoken with hbefore | hdue
    · exact hqueue s (List.mem_append_left _ hbefore)
    · obtain ⟨w, hw, hwaker⟩ := List.mem_filterMap.mp hdue
      obtain ⟨pipe, sleep, hpipe, hstage, -⟩ :=
        hp.wakersKnown w (List.mem_filter.mp hw).1 s hwaker
      exact ⟨pipe, hpipe, by rw [hstage]; exact Nat.le_refl _⟩
  · exact hqueue s (List.mem_append_right _ hnew)

/-- `act` of an advance or a run extends a `Lapse`. -/
theorem Lapse.act (h : Lapse p q) (hq : q.Visited) (ha : a.isPassage = true) :
    Lapse p (q.act a).1 ∧ Course LapseScope q (q.act a).1 := by
  cases a with
  | advance span =>
    have hadvance : Course LapseScope q (q.advance span) :=
      (advance_course q span).mono (by rintro k (rfl | rfl) <;> trivial)
    have hsame : (q.advance span).pipelines = q.pipelines := by
      obtain ⟨_, hadvance⟩ := advance_eq q span
      rw [hadvance]
    refine ⟨⟨h.course.trans (hadvance.mono fun _ => .inl), fun c s hs => ?_, ?_⟩, hadvance⟩
    · exact (h.still c s hs).of_same (congrArg (·[s]?) hsame)
    · exact advance_queue hq h.queue span
  | run =>
    obtain ⟨hpolls, hstill⟩ := polls_lapse (p := { q with woken := [], spawned := [] }) h.queue
    have hrun : Course LapseScope q q.run := .trans (.move (.clear q) trivial) hpolls
    have hempty := Course.queues_empty (n := q.hosts.length)
      ((polls_course (q.woken ++ q.spawned) (p := { q with woken := [], spawned := [] })
        (Nat.le_refl _)).mono fun _ => .inl) ⟨rfl, rfl⟩
    refine ⟨⟨h.course.trans (hrun.mono fun _ => .inl), fun c s hs => ?_, fun s hs => ?_⟩, hrun⟩
    · exact hstill c s (h.still c s hs)
    · have hs : s ∈ q.run.woken ++ q.run.spawned := hs
      unfold Page.run at hs
      rw [hempty.1, hempty.2] at hs
      cases hs
  | _ => cases ha

/-- `sweep` extends a `Lapse`. -/
theorem Lapse.sweep (h : Lapse p q) : Lapse p q.sweep := by
  refine ⟨h.course.trans ((sweep_course q).mono fun _ => .inr), fun c s hs => ?_, fun s hs => ?_⟩
  · exact (h.still c s hs).of_same (congrArg (·[s]?) (sweep_pipelines q))
  · refine (h.queue s ?_).course (sweep_course q)
    obtain ⟨_, _, hsweep⟩ := sweep_eq q
    rwa [hsweep] at hs

theorem perform_of_passage (p : Page) (ha : a.isPassage = true) :
    (p.perform a).1 = (p.act a).1.sweep := by
  cases a with
  | advance | run => rfl
  | _ => cases ha

theorem perform_run_now (p : Page) : (p.perform .run).1.clock.now = p.clock.now :=
  ((sweep_course p.run).now_eq id).trans ((run_course p).now_eq id)

theorem perform_advance_now (p : Page) (span : Duration) :
    (p.perform (.advance span)).1.clock.now = p.clock.now + span := by
  have hsweep := (sweep_course (p.advance span)).now_eq id
  obtain ⟨_, hadvance⟩ := advance_eq p span
  rw [hadvance] at hsweep
  refine Eq.trans ?_ hsweep
  rw [← hadvance]
  rfl

/-- `performAll` of advances and runs advances the clock by `elapsed`. -/
theorem performAll_now (p : Page) {actions : List Action}
    (ha : ∀ a ∈ actions, a.isPassage = true) :
    (p.performAll actions).clock.now = p.clock.now + elapsed actions := by
  induction actions generalizing p with
  | nil => rfl
  | cons a rest ih =>
    have hpass := ha a (by simp)
    refine (ih _ fun b hb => ha b (by simp [hb])).trans ?_
    cases a with
    | advance span =>
      rw [perform_advance_now, Duration.add_assoc]
      rfl
    | run =>
      rw [perform_run_now]
      rfl
    | _ => cases hpass

theorem Lapse.performAll (h : Lapse p q) (hq : q.Reachable) {actions : List Action}
    (ha : ∀ a ∈ actions, a.isPassage = true) : Lapse p (q.performAll actions) := by
  induction actions generalizing q with
  | nil => exact h
  | cons a rest ih =>
    have hpass := ha a (by simp)
    refine ih (q := (q.perform a).1) ?_ (hq.perform a) fun b hb => ha b (by simp [hb])
    rw [perform_of_passage q hpass]
    exact (h.act hq.visited hpass).1.sweep

theorem Lapse.length_pipelines (h : Lapse p q) :
    q.pipelines.length = p.pipelines.length :=
  h.course.length_pipelines fun _ hk => hk.elim id id

end Passing

/-! ## Live pipelines after some time -/

/-- `q.AfterRun`: `q` is the page after a run. -/
def AfterRun (q : Page) : Prop :=
  ∃ p : Page, p.Reachable ∧ q = (p.perform .run).1

section Under

variable {p q r : Page} {c : ComponentId} {s : PipelineId} {deadline : Duration}

/-- After a run a pipeline is live exactly if its settle delay has not passed. -/
theorem AfterRun.liveAt_iff (hq : q.AfterRun) (h : q.SettlesBy s deadline)
    (hown : ∀ pipe, q.pipelines[s]? = some pipe → pipe.owner = c) :
    q.LiveAt c s ↔ q.clock.now < deadline := by
  obtain ⟨p, hp, rfl⟩ := hq
  obtain ⟨pipe, hpipe, ha, hstage⟩ := h
  constructor
  · rintro ⟨pipe', hpipe', -, hlive⟩
    rw [hpipe] at hpipe'
    cases hpipe'
    rcases hstage with ⟨sleep, hsettling, rfl⟩ | ⟨hfinished, -⟩
    · -- it is not queued, so its sleep is not over
      have hsleep : (p.perform .run).1.sleepOf (.pipeline s) = some sleep := by
        simp [sleepOf, hpipe, hsettling, Stage.sleep?]
      rcases hp.run_waits.sleeping s sleep hsleep (by simp [isAborted, hpipe, ha]) with
        ⟨-, hlate⟩ | hqueued
      · exact Duration.not_le.mp hlate
      · cases hqueued
    · simp [Pipeline.isLive, Pipeline.isOpen, hfinished] at hlive
  · intro hlt
    refine ⟨pipe, hpipe, hown pipe hpipe, ?_⟩
    rcases hstage with ⟨sleep, hsettling, -⟩ | ⟨-, hle⟩
    · simp [Pipeline.isLive, Pipeline.isOpen, hsettling, ha]
    · exact absurd hle (Duration.not_le.mpr hlt)

/-- Which pipelines are live after a `Lapse` depends on the time only. -/
theorem Lapse.liveAt_iff (h : Lapse q r) (hr : r.AfterRun) :
    r.LiveAt c s ↔ q.LiveAt c s ∧
      (q.Exchanging c s ∨ ∃ deadline, q.SettlesBy s deadline ∧ r.clock.now < deadline) := by
  have hsettles (deadline : Duration) (hs : q.SettlesBy s deadline) : r.SettlesBy s deadline :=
    hs.course h.course fun _ hk => hk.elim id id
  have howner (hlive : q.LiveAt c s) (pipe' : Pipeline) (hpipe' : r.pipelines[s]? = some pipe') :
      pipe'.owner = c := by
    obtain ⟨pipe, hpipe, hown, -⟩ := hlive
    obtain ⟨sub'', hsub'', honward⟩ := h.course.pipelineKept s pipe hpipe
    rw [hpipe'] at hsub''
    cases hsub''
    exact honward.owner.trans hown
  constructor
  · intro hlive
    -- no pipeline was added, so this one was present and live
    have hs : s < q.pipelines.length := by
      obtain ⟨pipe, hpipe, -⟩ := hlive
      exact h.length_pipelines ▸ (List.getElem?_eq_some_iff.mp hpipe).1
    have hlive₀ := h.course.liveAt hs hlive
    refine ⟨hlive₀, ?_⟩
    obtain ⟨pipe, hpipe, hown, hl⟩ := id hlive₀
    have ha : pipe.aborted = false := (Pipeline.isLive_iff.mp hl).2
    cases hstage : pipe.stage with
    | accepted | awaiting => exact .inl ⟨pipe, hpipe, hown, ha, by rw [hstage]; rfl⟩
    | settling sleep =>
      have hsleep : q.SettlesBy s sleep.deadline := ⟨pipe, hpipe, ha, .inl ⟨sleep, hstage, rfl⟩⟩
      exact .inr ⟨_, hsleep, (hr.liveAt_iff (hsettles _ hsleep) (howner hlive₀)).mp hlive⟩
    | finished => simp [Pipeline.isLive, Pipeline.isOpen, hstage] at hl
  · rintro ⟨hlive, hs | ⟨deadline, hs, hlt⟩⟩
    · exact (h.still c s hs).liveAt
    · exact (hr.liveAt_iff (hsettles _ hs) (howner hlive)).mpr hlt

/-- After a run every open pipeline is live: aborted ones have ended. -/
theorem AfterRun.heldByPipeline_iff (hq : q.AfterRun) :
    q.heldByPipeline c = true ↔ ∃ s, q.LiveAt c s := by
  obtain ⟨p, hp, rfl⟩ := hq
  rw [Page.heldByPipeline_iff]
  constructor
  · rintro ⟨s, pipe, hpipe, hopen, hown⟩
    have hdue := perform_run_due hp.dueQueued hpipe
    refine ⟨s, pipe, hpipe, hown, ?_⟩
    simp only [Pipeline.isDue, hopen, Bool.true_and, Bool.or_eq_false_iff] at hdue
    simp [Pipeline.isLive, hopen, hdue]
  · rintro ⟨s, pipe, hpipe, hown, hlive⟩
    exact ⟨s, pipe, hpipe, (Pipeline.isLive_iff.mp hlive).1, hown⟩

theorem AfterRun.reachable (hq : q.AfterRun) : q.Reachable := by
  obtain ⟨p, hp, rfl⟩ := hq
  exact hp.perform .run

theorem AfterRun.visited (hq : q.AfterRun) : q.Visited :=
  hq.reachable.visited

/-- Advances and runs after a run are a `Lapse`. -/
theorem AfterRun.lapse (hq : q.AfterRun) {later : List Action}
    (hlater : ∀ a ∈ later, a.isPassage = true) : Lapse q (q.performAll later) := by
  refine Lapse.performAll ?_ hq.reachable hlater
  obtain ⟨p, hp, rfl⟩ := hq
  obtain ⟨hwoken, hspawned⟩ := perform_run_queues p
  exact ⟨.refl _, fun _ _ hs => hs, by simp [hwoken, hspawned]⟩

/-- A component is submitting exactly if it has a live pipeline. -/
theorem InStep.state_eq (h : p.InStep) {k : Component} (hk : p.component? c = some k) :
    k.state = .submitting ↔ ∃ s, p.LiveAt c s := by
  rw [h.busy c k hk, Option.isSome_iff_exists]
  exact exists_congr fun s => h.flight c k hk s

end Under

/-! ## Hosts after some time -/

/-- `p.unmarking h` is the host `h` after an attempt to remove its submitting attribute. -/
def unmarking (p : Page) (h : HostId) : Option Host :=
  if p.fails .removeAttribute then p.hosts[h]? else (p.hosts[h]?).map Host.unmark

/-- `p.EndedOn q h`: a pipeline of a component on `h` was live on `p` and is not on `q`. -/
def EndedOn (p q : Page) (h : HostId) : Prop :=
  ∃ c k s, p.component? c = some k ∧ k.host = h ∧ p.LiveAt c s ∧ ¬ q.LiveAt c s

/-- `p.HostsLapsed q`: every host of `q` is that of `p`, with the attribute removed if a pipeline on
it has ended. -/
def HostsLapsed (p q : Page) : Prop :=
  ∀ h, (p.EndedOn q h → q.hosts[h]? = p.unmarking h) ∧
    (¬ p.EndedOn q h → q.hosts[h]? = p.hosts[h]?)

section Hosts

variable {p q r : Page} {c : ComponentId}

theorem getElem?_unmarking (p : Page) (h h' : HostId) :
    (p.hostsUnmarking h)[h']? = if h = h' then p.unmarking h' else p.hosts[h']? := by
  unfold hostsUnmarking unmarking
  by_cases hh : h = h'
  · subst hh
    rw [if_pos rfl]
    split
    · rfl
    · rw [List.getElem?_modify_eq]
      rfl
  · rw [if_neg hh]
    split
    · rfl
    · rw [List.getElem?_modify_ne _ _ hh]

/-- Removing the attribute twice is removing it once. -/
theorem HostsLapsed.unmarking_eq (h : p.HostsLapsed q) (hf : q.faults = p.faults) (i : HostId) :
    q.unmarking i = p.unmarking i := by
  have hfails : q.fails .removeAttribute = p.fails .removeAttribute := by
    simp only [fails, hf]
  by_cases hended : p.EndedOn q i
  · have hhost := (h i).1 hended
    unfold unmarking at hhost ⊢
    rw [hfails, hhost]
    split
    · rfl
    · rw [Option.map_map]
      exact congrArg (fun f => (p.hosts[i]?).map f) (funext Host.unmark_unmark)
  · unfold unmarking
    rw [hfails, (h i).2 hended]

/-- `HostsLapsed` depends on the hosts and the live pipelines. -/
theorem HostsLapsed.of_same (h : p.HostsLapsed q) (hhosts : r.hosts = q.hosts)
    (hlive : ∀ c s, r.LiveAt c s ↔ q.LiveAt c s) : p.HostsLapsed r := by
  have hended (i : HostId) : p.EndedOn r i ↔ p.EndedOn q i := by
    unfold EndedOn
    simp only [hlive]
  intro i
  rw [hhosts, hended]
  exact h i

/-- A change of stage that does not end a pipeline preserves `LiveAt`. -/
theorem liveAt_of_stage {t : PipelineId} {stage : Stage}
    (hr : r.pipelines = q.pipelines.modify t (Pipeline.at stage))
    (hlive : ∀ pipe, q.pipelines[t]? = some pipe → (pipe.at stage).isLive = pipe.isLive)
    (c : ComponentId) (s : PipelineId) : r.LiveAt c s ↔ q.LiveAt c s := by
  unfold LiveAt
  rw [hr]
  by_cases hts : t = s
  · subst hts
    rw [List.getElem?_modify_eq]
    constructor
    · rintro ⟨pipe', hpipe', hown, hl⟩
      obtain ⟨pipe, hpipe, rfl⟩ := Option.map_eq_some_iff.mp hpipe'
      exact ⟨pipe, hpipe, hown, (hlive pipe hpipe).symm.trans hl⟩
    · rintro ⟨pipe, hpipe, hown, hl⟩
      exact ⟨pipe.at stage, by rw [hpipe]; rfl, hown, (hlive pipe hpipe).trans hl⟩
  · rw [List.getElem?_modify_ne _ _ hts]

/-- `HostsLapsed` is preserved if a pipeline ends and its component removes the attribute. -/
theorem HostsLapsed.finish (h : p.HostsLapsed q) (hf : q.faults = p.faults) {k k₀ : Component}
    {t : PipelineId} (hlive : p.LiveAt c t) (hk₀ : p.component? c = some k₀)
    (hsame : k₀.SameMount k) (hhosts : r.hosts = q.hostsUnmarking k.host)
    (hr : r.pipelines = q.pipelines.modify t (Pipeline.at .finished)) :
    p.HostsLapsed r := by
  have hdead : ¬ r.LiveAt c t := by
    rintro ⟨pipe', hpipe', -, hl⟩
    rw [hr, List.getElem?_modify_eq] at hpipe'
    obtain ⟨pipe, -, rfl⟩ := Option.map_eq_some_iff.mp hpipe'
    cases hl
  have hothers (d : ComponentId) (s : PipelineId) (hst : s ≠ t) :
      r.LiveAt d s ↔ q.LiveAt d s := by
    unfold LiveAt
    rw [hr, List.getElem?_modify_ne _ _ (Ne.symm hst)]
  -- the host joins those on which a pipeline has ended
  have hended (i : HostId) : p.EndedOn r i ↔ k.host = i ∨ p.EndedOn q i := by
    constructor
    · rintro ⟨d, kd, s, hkd, hhost, hlive', hdead'⟩
      by_cases hst : s = t
      · subst hst
        cases InStep.owner_unique hlive hlive'
        rw [hk₀] at hkd
        cases hkd
        exact .inl (hsame.1.trans hhost)
      · exact .inr ⟨d, kd, s, hkd, hhost, hlive', fun hl => hdead' ((hothers d s hst).mpr hl)⟩
    · rintro (hhost | ⟨d, kd, s, hkd, hhost, hlive', hdead'⟩)
      · exact ⟨c, k₀, t, hk₀, hsame.1.symm.trans hhost, hlive, hdead⟩
      · refine ⟨d, kd, s, hkd, hhost, hlive', fun hl => ?_⟩
        by_cases hst : s = t
        · subst hst
          cases InStep.owner_unique hlive hlive'
          exact hdead hl
        · exact hdead' ((hothers d s hst).mp hl)
  intro i
  rw [hhosts, getElem?_unmarking, hended]
  constructor
  · intro hi
    by_cases hhost : k.host = i
    · rw [if_pos hhost, h.unmarking_eq hf]
    · rw [if_neg hhost]
      exact (h i).1 (hi.resolve_left hhost)
  · intro hi
    rw [if_neg fun hhost => hi (.inl hhost)]
    exact (h i).2 fun hq => hi (.inr hq)

/-- Advances and polls of settling pipelines preserve the faults. -/
theorem Course.faults_of_lapse (h : Course (fun k => LapseScope k ∨ SweepScope k) p q) :
    q.faults = p.faults := by
  refine h.keeps (I := fun r => r.faults = p.faults) (fun kind x y hkind move ih => ?_) rfl
  cases move with
  | ask | await | sleep | finish | finishGone | dropAborted | drop | clear | wake | advance
  | pollSleep | dropSleep => exact ih
  | _ => exact (hkind.elim id id).elim

/-- `HostsLapsed` holds after advances, polls of settling pipelines and sweeps. -/
theorem Course.hostsLapsed (h : Course (fun k => LapseScope k ∨ SweepScope k) p q)
    (hp : p.Visited) : p.HostsLapsed q := by
  induction h with
  | refl =>
    intro i
    refine ⟨?_, fun _ => rfl⟩
    rintro ⟨c, k, s, -, -, hlive, hdead⟩
    exact absurd hlive hdead
  | @tail x y hpx hstep ih =>
    have hpx : Course (fun k => LapseScope k ∨ SweepScope k) p x := hpx
    obtain ⟨kind, hkind, move⟩ := hstep
    have hx : x.Visited := hp.trans (hpx.mono fun _ _ => trivial)
    cases move with
    | ask | drop | clear | wake | advance | pollSleep | dropSleep =>
      exact ih.of_same rfl fun _ _ => Iff.rfl
    | await hs =>
      refine ih.of_same rfl (liveAt_of_stage rfl fun pipe hpipe => ?_)
      obtain ⟨pipe', hpipe', -, ha, hexchange⟩ := hs
      rw [hpipe] at hpipe'
      cases hpipe'
      cases hstage : pipe.stage with
      | accepted | awaiting => simp [Pipeline.isLive, Pipeline.isOpen, Pipeline.at, hstage]
      | settling | finished => simp [hstage, Stage.isExchange] at hexchange
    | sleep hpipe hown hlive =>
      refine ih.of_same rfl (liveAt_of_stage rfl fun pipe hpipe' => ?_)
      rw [hpipe] at hpipe'
      cases hpipe'
      rw [hlive]
      exact Pipeline.isLive_iff.mpr ⟨rfl, (Pipeline.isLive_iff.mp hlive).2⟩
    | dropAborted hpipe ha =>
      refine ih.of_same rfl (liveAt_of_stage rfl fun pipe hpipe' => ?_)
      rw [hpipe] at hpipe'
      cases hpipe'
      simp [Pipeline.isLive, Pipeline.at, ha]
    | @finish _ c k t pipe sleep hpipe hown hlive hsleep hk =>
      -- the pipeline and its component existed at the beginning
      have hlen := hpx.length_pipelines fun _ hk => hk.elim id id
      have ht : t < p.pipelines.length := hlen ▸ (List.getElem?_eq_some_iff.mp hpipe).1
      rcases hpx.origin hk with ⟨k₀, hk₀, hsame⟩ | ⟨-, hcreate⟩
      · exact ih.finish hpx.faults_of_lapse (hpx.liveAt ht ⟨pipe, hpipe, hown, hlive⟩) hk₀ hsame
          rfl rfl
      · exact (hcreate.elim id id).elim
    | finishGone hpipe hown hlive hsleep hk =>
      -- the owner is present, by `InStep`
      have hthere := hx.inStep.owned _ _ hpipe (Pipeline.isLive_iff.mp hlive).1
      rw [hown, hk] at hthere
      cases hthere
    | _ => exact (hkind.elim id id).elim

end Hosts

/-! ## Components after some time -/

section Left

variable {p q r : Page} {c : ComponentId}

/-- Which components remain after advances and runs depends on the open pipelines at the end. -/
theorem AfterRun.isSome_iff (hq : q.AfterRun) {later : List Action}
    (hlater : ∀ a ∈ later, a.isPassage = true) (hr : r = q.performAll later) :
    (r.component? c).isSome = true ↔
      (q.component? c).isSome = true ∧ q.KeptBy r.heldByPipeline c := by
  have hsparing : ∀ a ∈ later, a.isSparing = true :=
    fun a ha => Action.isSparing_of_isPassage (hlater a ha)
  by_cases hc : c < q.components.length
  · rw [hr]
    exact isSome_performAll_iff hq.reachable hsparing hc
  · -- no component is created meanwhile
    have hnone : q.component? c = none := by
      simp [component?, List.getElem?_eq_none (Nat.le_of_not_lt hc)]
    refine iff_of_false (fun hleft => ?_) fun hthere => by simp [hnone] at hthere
    obtain ⟨k', hk'⟩ := Option.isSome_iff_exists.mp hleft
    have hlapse : Lapse q r := hr ▸ hq.lapse hlater
    rcases hlapse.course.origin hk' with ⟨k, hk, -⟩ | ⟨-, hcreate⟩
    · rw [hnone] at hk
      cases hk
    · exact (hcreate.elim id id).elim

end Left

/-! ## Submitting components -/

/-- `p.Occupied c n`: `c` is submitting or detached, and all its pipelines are below `n`. -/
structure Occupied (p : Page) (c : ComponentId) (n : Nat) : Prop where
  placed : c < p.components.length
  busy : ∀ k, p.component? c = some k → k.state = .submitting ∨ k.detached = true
  last : ∀ (s : PipelineId) (pipe : Pipeline), p.pipelines[s]? = some pipe →
    pipe.owner = c → s < n

section Occupied

variable {kind : Kind} {p q : Page} {c d : ComponentId} {k : Component} {n : Nat}

/-- An idle component with a form is not `Occupied`. -/
theorem Occupied.ne_of_ready (h : p.Occupied c n) (hp : p.FlagsInStep) {f : FormId}
    (hk : p.component? d = some k) (hi : k.state = .idle) (hf : k.form = some f) : d ≠ c := by
  rintro rfl
  rcases h.busy k hk with hbusy | hdetached
  · rw [hi] at hbusy
    cases hbusy
  · rw [(hp d k hk).formless hdetached] at hf
    cases hf

private theorem Occupied.of_modify (h : p.Occupied c n) {change : Component → Component}
    (hc : q.components = p.components.modify d (Option.map change))
    (hchange : ∀ k, d = c → p.component? d = some k →
      (change k).state = .submitting ∨ (change k).detached = true)
    (hlast : ∀ (s : PipelineId) (pipe : Pipeline), q.pipelines[s]? = some pipe →
      pipe.owner = c → s < n) : q.Occupied c n where
  placed := by
    rw [hc, List.length_modify]
    exact h.placed
  busy k' hk' := by
    rw [component?_of_modify hc] at hk'
    split at hk'
    · rename_i hdc
      obtain ⟨k, hk, rfl⟩ := Option.map_eq_some_iff.mp hk'
      exact hchange k hdc (hdc ▸ hk)
    · exact h.busy k' hk'
  last := hlast

private theorem Occupied.last_of_modify (h : p.Occupied c n) {t : PipelineId}
    (change : Pipeline → Pipeline) (howner : ∀ pipe, (change pipe).owner = pipe.owner)
    (s : PipelineId) (pipe : Pipeline) (hpipe : (p.pipelines.modify t change)[s]? = some pipe)
    (hown : pipe.owner = c) : s < n := by
  rw [List.getElem?_modify] at hpipe
  obtain ⟨old, hold, rfl⟩ := Option.map_eq_some_iff.mp hpipe
  refine h.last s old hold ?_
  split at hown
  · exact (howner old).symm.trans hown
  · exact hown

/-- `Occupied` is preserved by every move except the end of the pipeline. -/
theorem Move.occupied (move : Move kind p q) (hkind : ∀ s, kind ≠ .finish s)
    (hp : p.FlagsInStep) (h : p.Occupied c n) : q.Occupied c n := by
  cases move with
  | tree e =>
    obtain ⟨_, _, _, rfl⟩ := e.kept.only
    exact ⟨h.placed, h.busy, h.last⟩
  | mark | ask | clear | wake | advance | pollSleep | dropSleep | fault | mend | note | other =>
    exact ⟨h.placed, h.busy, h.last⟩
  | await | sleep | dropAborted => exact ⟨h.placed, h.busy, h.last_of_modify _ fun _ => rfl⟩
  | finish | finishGone => exact absurd rfl (hkind _)
  | create =>
    refine ⟨Nat.lt_of_lt_of_le h.placed (by simp), fun k hk => ?_, h.last⟩
    rw [component?_of_append (p := p) rfl, if_neg (Nat.ne_of_lt h.placed)] at hk
    exact h.busy k hk
  | drop =>
    refine ⟨by simpa using h.placed, fun k hk => ?_, h.last⟩
    rw [component?_of_set_none (p := p) rfl] at hk
    split at hk
    · cases hk
    · exact h.busy k hk
  | bind | unbind | rebind | adopt =>
    exact h.of_modify rfl (fun k hdc hk => h.busy k (hdc ▸ hk)) h.last
  | replace => exact h.of_modify rfl (fun _ _ _ => .inr rfl) h.last
  | @disconnect _ d k =>
    refine h.of_modify rfl (fun _ _ _ => .inr rfl) ?_
    cases hf : k.inFlight with
    | none => exact h.last
    | some t => exact h.last_of_modify Pipeline.abort fun _ => rfl
  | @start _ d k f hk hi hf =>
    -- only an idle component with a form starts a pipeline, so it is another one
    have hdc := h.ne_of_ready hp hk hi hf
    refine h.of_modify rfl (fun _ _ _ => .inl rfl) fun s pipe hpipe hown => ?_
    rcases Nat.lt_or_ge s p.pipelines.length with hlt | hge
    · rw [List.getElem?_append_left hlt] at hpipe
      exact h.last s pipe hpipe hown
    · rw [List.getElem?_append_right hge] at hpipe
      cases List.mem_singleton.mp (List.mem_of_getElem? hpipe)
      exact absurd hown hdc
  | @refuse _ d k f hk hi hf =>
    have hdc := h.ne_of_ready hp hk hi hf
    exact h.of_modify rfl (fun _ hdc' _ => absurd hdc' hdc) h.last

/-- No action makes a submitting component start a pipeline. -/
theorem perform_starts_nothing (hp : p.Visited) (hk : p.component? c = some k)
    (hbusy : k.state = .submitting) (a : Action) (s : PipelineId) (pipe : Pipeline)
    (hpipe : (p.perform a).1.pipelines[s]? = some pipe) (hown : pipe.owner = c) :
    s < p.pipelines.length := by
  by_cases ha : a = .run
  · subst ha
    have hcourse : Course (fun k => RunScope p.hosts.length k ∨ SweepScope k) p
        (p.perform .run).1 :=
      ((run_course p).mono fun _ => .inl).trans ((sweep_course p.run).mono fun _ => .inr)
    rw [← hcourse.length_pipelines fun _ hk => hk.elim id id]
    exact (List.getElem?_eq_some_iff.mp hpipe).1
  · have hstart : p.Occupied c p.pipelines.length ∧ p.FlagsInStep ∧ p.InStep := by
      refine ⟨⟨lt_of_component? hk, fun k' hk' => ?_, fun t pipe' hpipe' _ => ?_⟩, hp.flagsInStep,
        hp.inStep⟩
      · rw [hk] at hk'
        cases hk'
        exact .inl hbusy
      · exact (List.getElem?_eq_some_iff.mp hpipe').1
    have hend := (perform_course p a).keeps
      (I := fun r => r.Occupied c p.pipelines.length ∧ r.FlagsInStep ∧ r.InStep)
      (fun kind x y hkind move ih => ⟨move.occupied (by rintro t rfl; exact ha hkind) ih.2.1 ih.1,
        move.flagsInStep ih.2.2 ih.2.1, move.inStep ih.2.2⟩) hstart
    exact hend.1.last s pipe hpipe hown

end Occupied

/-! ## The settle delay -/

section Delay

variable {p q r r' : Page} {c : ComponentId} {k : Component} {s : PipelineId}

/-- Two lists of advances and runs with the same `elapsed` time end in the same hosts, and the same
components in the same states. -/
theorem AfterRun.same_of_now (hq : q.AfterRun) {one two : List Action}
    (hone : ∀ a ∈ one, a.isPassage = true) (htwo : ∀ a ∈ two, a.isPassage = true)
    (hr : r = q.performAll one) (hr' : r' = q.performAll two) (hrun : r.AfterRun)
    (hrun' : r'.AfterRun) (hnow : elapsed one = elapsed two) :
    r.hosts = r'.hosts ∧
      ∀ d, (r.component? d).map (·.state) = (r'.component? d).map (·.state) := by
  have hlapse : Lapse q r := hr ▸ hq.lapse hone
  have hlapse' : Lapse q r' := hr' ▸ hq.lapse htwo
  have hsame : r.clock.now = r'.clock.now := by
    rw [hr, hr', performAll_now _ hone, performAll_now _ htwo, hnow]
  have hlive (c : ComponentId) (s : PipelineId) : r.LiveAt c s ↔ r'.LiveAt c s := by
    rw [hlapse.liveAt_iff hrun, hlapse'.liveAt_iff hrun', hsame]
  refine ⟨?_, fun d => ?_⟩
  · apply List.ext_getElem?
    intro h
    have hhosts := hlapse.course.hostsLapsed hq.visited h
    have hhosts' := hlapse'.course.hostsLapsed hq.visited h
    have hended : q.EndedOn r h ↔ q.EndedOn r' h := by
      unfold EndedOn
      simp only [hlive]
    by_cases hend : q.EndedOn r h
    · rw [hhosts.1 hend, hhosts'.1 (hended.mp hend)]
    · rw [hhosts.2 hend, hhosts'.2 fun hend' => hend (hended.mpr hend')]
  · have hworks : r.heldByPipeline = r'.heldByPipeline := by
      funext e
      rw [Bool.eq_iff_iff, hrun.heldByPipeline_iff, hrun'.heldByPipeline_iff]
      exact exists_congr fun s => hlive e s
    have halive : (r.component? d).isSome = (r'.component? d).isSome := by
      rw [Bool.eq_iff_iff, hq.isSome_iff hone hr, hq.isSome_iff htwo hr', hworks]
    cases hk : r.component? d with
    | none =>
      rw [hk] at halive
      have hnone : r'.component? d = none :=
        Option.not_isSome_iff_eq_none.mp (by rw [← halive]; simp)
      rw [hnone]
    | some k =>
      rw [hk] at halive
      obtain ⟨k', hk'⟩ := Option.isSome_iff_exists.mp halive.symm
      rw [hk', Option.map_some, Option.map_some]
      -- both are submitting exactly if they have a live pipeline
      have hbusy : k.state = .submitting ↔ k'.state = .submitting := by
        rw [hrun.visited.inStep.state_eq hk, hrun'.visited.inStep.state_eq hk']
        exact exists_congr fun s => hlive d s
      cases hs : k.state <;> cases hs' : k'.state <;> simp_all

/-- After the run in which an exchange ends, the component has a live pipeline exactly during its
settle delay. -/
theorem run_liveAt_iff (hp : p.Reachable) (hk : p.component? c = some k)
    (hs : p.Exchanging c s) (hend : ¬ (p.perform .run).1.Exchanging c s)
    (hlapse : Lapse (p.perform .run).1 r) (hrun : r.AfterRun) (t : PipelineId) :
    r.LiveAt c t ↔ t = s ∧ r.clock.now < p.clock.now + k.config.delay := by
  have hcourse : Course (fun k => RunScope p.hosts.length k ∨ SweepScope k) p
      (p.perform .run).1 :=
    ((run_course p).mono fun _ => .inl).trans ((sweep_course p.run).mono fun _ => .inr)
  have hsettles : r.SettlesBy s (p.clock.now + k.config.delay) :=
    (run_settlesBy hk hs hend).course hlapse.course fun _ hk => hk.elim id id
  have hpr : Course (fun _ => True) p r :=
    (hcourse.mono fun _ _ => trivial).trans (hlapse.course.mono fun _ _ => trivial)
  have howner (pipe' : Pipeline) (hpipe' : r.pipelines[s]? = some pipe') : pipe'.owner = c := by
    obtain ⟨pipe, hpipe, hown, -⟩ := hs
    obtain ⟨sub'', hsub'', honward⟩ := hpr.pipelineKept s pipe hpipe
    rw [hpipe'] at hsub''
    cases hsub''
    exact honward.owner.trans hown
  constructor
  · intro hlive
    -- it was live before the run, and no other one was
    have ht : t < p.pipelines.length := by
      obtain ⟨pipe, hpipe, -⟩ := hlive
      rw [← hcourse.length_pipelines fun _ hk => hk.elim id id, ← hlapse.length_pipelines]
      exact (List.getElem?_eq_some_iff.mp hpipe).1
    cases hp.visited.inStep.live_unique (hpr.liveAt ht hlive) hs.liveAt
    exact ⟨rfl, (hrun.liveAt_iff hsettles howner).mp hlive⟩
  · rintro ⟨rfl, hlt⟩
    exact (hrun.liveAt_iff hsettles howner).mpr hlt

/-- A course without `other` moves preserves the handles. -/
theorem Course.handles_eq {S : Kind → Prop} (h : Course S p q) (hS : ¬ S .other) :
    q.handles = p.handles := by
  refine h.keeps (I := fun r => r.handles = p.handles) (fun kind x y hkind move ih => ?_) rfl
  cases move with
  | tree e =>
    obtain ⟨_, _, _, rfl⟩ := e.kept.only
    exact ih
  | other => exact absurd hkind hS
  | mark | disconnect | start | refuse | wake | advance | pollSleep | dropSleep | fault | mend
  | create | bind | unbind | rebind | replace | adopt | drop | ask | await | sleep | finish
  | finishGone | dropAborted | clear | note => exact ih

/-- A component with a handle remains after a run. -/
theorem perform_run_of_handle (hk : p.component? c = some k) (hh : some c ∈ p.handles) :
    ((p.perform .run).1.component? c).isSome = true := by
  obtain ⟨k', hk', -⟩ := (run_course p).mounted id hk
  rw [← (run_course p).handles_eq id] at hh
  exact Option.isSome_iff_exists.mpr ⟨k', sweep_of_handle hk' hh⟩

theorem perform_run_heldByHandle (hh : some c ∈ p.handles) :
    (p.perform .run).1.heldByHandle c = true := by
  rw [← (run_course p).handles_eq id, ← (sweep_course p.run).handles_eq id] at hh
  exact List.contains_iff_mem.mpr hh

end Delay

/-- `AfterRun` holds after a list of actions that begins and ends with a run. -/
private theorem afterRun_of_getLast {p : Page} (hp : p.Reachable) {later : List Action}
    (hlast : (Action.run :: later).getLast? = some .run) :
    ((p.perform .run).1.performAll later).AfterRun := by
  rcases List.eq_nil_or_concat later with rfl | ⟨before, a, rfl⟩
  · exact ⟨p, hp, rfl⟩
  · rw [List.concat_eq_append, ← List.cons_append, List.getLast?_concat] at hlast
    cases hlast
    refine ⟨(p.perform .run).1.performAll before, (hp.perform .run).performAll before, ?_⟩
    rw [List.concat_eq_append, performAll_append]
    rfl

/-- A run ends the exchange of a component, with any outcome. Then the clock is advanced in any
steps, with runs in between. After each run the component is submitting if the settle delay has not
passed since the run that ended the exchange, and idle otherwise. The hosts and the components with
their states are the same as if the clock had been advanced once. No action makes the component
start another pipeline while it is submitting. -/
theorem settles_exactly {p : Page} (hp : p.Reachable) {c : ComponentId} {k : Component}
    {s : PipelineId} (hk : p.component? c = some k) (hs : p.Exchanging c s)
    (hend : ¬ (p.perform .run).1.Exchanging c s) {later : List Action}
    (hlater : ∀ a ∈ later, a.isPassage = true) :
    let q := (p.perform .run).1
    let r := q.performAll later
    let once := q.performAll [.advance (elapsed later), .run]
    r.clock.now = p.clock.now + elapsed later ∧
    ((Action.run :: later).getLast? = some .run →
      (∀ k', r.component? c = some k' → k'.state =
        if r.clock.now < p.clock.now + k.config.delay then .submitting else .idle) ∧
      (r.clock.now < p.clock.now + k.config.delay ∨ some c ∈ p.handles →
        (r.component? c).isSome = true) ∧
      r.clock.now = once.clock.now ∧ r.hosts = once.hosts ∧
      ∀ d, (r.component? d).map (·.state) = (once.component? d).map (·.state)) ∧
    ∀ k', r.component? c = some k' → k'.state = .submitting →
      (∀ e, r.handleSubmit c e = (r.note .busy, e.prevent, .ignored)) ∧
      ∀ a t pipe, (r.perform a).1.pipelines[t]? = some pipe → pipe.owner = c →
        t < r.pipelines.length := by
  intro q r once
  have hq : q.AfterRun := ⟨p, hp, rfl⟩
  have hr : r = q.performAll later := rfl
  have honce : once = q.performAll [.advance (elapsed later), .run] := rfl
  have hqp : q = (p.perform .run).1 := rfl
  clear_value once r q
  have hpass : ∀ a ∈ [Action.advance (elapsed later), .run], a.isPassage = true := by
    simp [Action.isPassage]
  have helapsed : elapsed later = elapsed [.advance (elapsed later), .run] := rfl
  have hnow : r.clock.now = p.clock.now + elapsed later := by
    rw [hr, performAll_now q hlater, hqp, perform_run_now]
  have hnow' : r.clock.now = once.clock.now := by
    rw [hr, honce, performAll_now q hlater, performAll_now q hpass, ← helapsed]
  have hlapse : Lapse q r := hr ▸ hq.lapse hlater
  have hvisited : r.Visited := hq.visited.trans (hlapse.course.mono fun _ _ => trivial)
  refine ⟨hnow, fun hlast => ?_, fun k' hk' hbusy => ⟨fun e => ?_, ?_⟩⟩
  · have hrun : r.AfterRun := by
      rw [hr, hqp]
      exact afterRun_of_getLast hp hlast
    have hrun' : once.AfterRun :=
      ⟨(q.perform (.advance (elapsed later))).1, hq.reachable.perform _, honce⟩
    have hlive (t : PipelineId) := run_liveAt_iff hp hk hs hend (hqp ▸ hlapse) hrun t
    obtain ⟨hhosts, hstates⟩ := hq.same_of_now hlater hpass hr honce hrun hrun' helapsed
    refine ⟨fun k' hk' => ?_, ?_, hnow', hhosts, hstates⟩
    · have hstate := hvisited.inStep.state_eq hk'
      simp only [hlive, exists_eq_left] at hstate
      split
      · rename_i hlt
        exact hstate.mpr hlt
      · rename_i hlate
        cases hs' : k'.state with
        | idle => rfl
        | submitting => exact absurd (hstate.mp hs') hlate
    · rintro (hlt | hhandle)
      · obtain ⟨pipe, hpipe, rfl, hl⟩ := (hlive s).mpr ⟨rfl, hlt⟩
        exact hvisited.inStep.owned s pipe hpipe (Pipeline.isLive_iff.mp hl).1
      · have hthere := perform_run_of_handle hk hhandle
        have hheld := perform_run_heldByHandle hhandle
        rw [← hqp] at hthere hheld
        exact (hq.isSome_iff hlater hr).mpr ⟨hthere, c, by simp [hheld], .refl⟩
  · unfold handleSubmit
    rw [hk']
    dsimp only
    rw [if_pos hbusy]
  · exact perform_starts_nothing hvisited hk' hbusy

/-- One component gets its response and another one no reply. The first has a delay of ten
milliseconds, is still submitting after four of them, and idle after six more. -/
theorem settles_exactly_split :
    let p := performAll {} [.newForm { action := "/save", method := "post" },
      .newHost [] (some 0) none false, .append 0 0,
      .createWith 0 { swap := .inner, delay := .ofMillis 10 }, .attach 0,
      .newForm { action := "/send", method := "post" }, .newHost [] (some 1) none false,
      .append 0 1, .createWith 1 { delay := .ofMillis 3 }, .attach 1,
      .reply (.ok ⟨.ok, "<p>Saved</p>"⟩), .handleSubmit 0 none, .handleSubmit 1 none]
    let q := (p.perform .run).1
    let early := q.performAll [.advance (.ofMillis 4), .run]
    let late := q.performAll [.advance (.ofMillis 4), .run, .advance (.ofMillis 6), .run]
    (∃ k, early.component? 0 = some k ∧ k.state = .submitting ∧
      ∀ e, early.handleSubmit 0 e = (early.note .busy, e.prevent, .ignored)) ∧
    (∃ k, late.component? 0 = some k ∧ k.state = .idle) ∧
    late.hosts = (q.performAll [.advance (.ofMillis 10), .run]).hosts := by
  intro p q early late
  have hany : ((p.component? 0).any fun k => k.config.delay == .ofMillis 10) = true := by
    decide +kernel
  obtain ⟨k, hk, hdelay⟩ := (Option.any_eq_true _ _).mp hany
  have hdelay : k.config.delay = .ofMillis 10 := by simpa using hdelay
  have hhandle : some 0 ∈ p.handles := by decide +kernel
  have hsettles (later : List Action) (hlater : ∀ a ∈ later, a.isPassage = true) :=
    settles_exactly (p := p) ⟨_, rfl⟩ hk (s := 0) (by decide +kernel) (by decide +kernel) hlater
  rw [hdelay] at hsettles
  obtain ⟨-, hearly, hignores⟩ :=
    hsettles [.advance (.ofMillis 4), .run] (by simp [Action.isPassage])
  obtain ⟨-, hlate, -⟩ :=
    hsettles [.advance (.ofMillis 4), .run, .advance (.ofMillis 6), .run]
      (by simp [Action.isPassage])
  obtain ⟨hbusy, hthere, -⟩ := hearly rfl
  obtain ⟨hidle, hthere', -, hhosts, -⟩ := hlate rfl
  obtain ⟨k₁, hk₁⟩ := Option.isSome_iff_exists.mp (hthere (.inr hhandle))
  obtain ⟨k₂, hk₂⟩ := Option.isSome_iff_exists.mp (hthere' (.inr hhandle))
  have hstate₁ := hbusy k₁ hk₁
  have hstate₂ := hidle k₂ hk₂
  rw [if_pos (by decide +kernel)] at hstate₁
  rw [if_neg (by decide +kernel)] at hstate₂
  exact ⟨⟨k₁, hk₁, hstate₁, (hignores k₁ hk₁ hstate₁).1⟩, ⟨k₂, hk₂, hstate₂⟩, hhosts⟩

end Page

end FormSwap
