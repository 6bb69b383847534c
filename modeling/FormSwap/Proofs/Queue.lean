import FormSwap.Proofs.InFlight

/-!
# Queues and sleeps

A pipeline that is new or was aborted is queued until its next poll. So after a run every pipeline
was polled, and every aborted one has ended. A pipeline with a registered sleep is settling and has
its id, so that the sleep is dropped with it.

Main results:

- `Reachable.dueQueued`: a pipeline that is due for a poll is queued
- `perform_run_due`: no pipeline is due for a poll after a run
- `Move.wakersKnown`: every registered sleep of a pipeline belongs to its stage
-/

namespace FormSwap

/-- `s.isDue`: the pipeline was never polled, or was aborted and has not ended. -/
def Pipeline.isDue (s : Pipeline) : Bool :=
  s.isOpen && (s.aborted || s.stage.rank == 0)

/-! ## Waiters of a clock -/

namespace ManualClock

variable {c : ManualClock} {n : Sleep} {w : Waiter} {waker : Option Nat}

/-- `release` removes the waiter of the sleep. -/
theorem mem_release (h : w ∈ (c.release n).waiters) :
    w ∈ c.waiters ∧ n.id ≠ some w.id := by
  unfold release at h
  split at h
  · rename_i id ht
    obtain ⟨hw, hne⟩ := List.mem_filter.mp h
    refine ⟨hw, fun heq => ?_⟩
    rw [ht] at heq
    cases heq
    simp at hne
  · rename_i ht
    refine ⟨h, fun heq => ?_⟩
    rw [ht] at heq
    cases heq

/-- `poll` that is ready removes the waiter of the sleep. -/
theorem mem_poll_over (hover : (c.poll n waker).2.2 = true)
    (h : w ∈ (c.poll n waker).1.waiters) : w ∈ c.waiters ∧ n.id ≠ some w.id := by
  unfold poll at hover h
  split at h
  · exact mem_release h
  · rename_i hlate
    rw [if_neg hlate] at hover
    split at hover <;> cases hover

/-- `poll` registers a waiter of its own sleep only. -/
theorem mem_poll (h : w ∈ (c.poll n waker).1.waiters) :
    w ∈ c.waiters ∨ w.waker = waker ∧ (c.poll n waker).2.1.id = some w.id := by
  unfold poll at h ⊢
  split at h
  · exact .inl (mem_release h).1
  · rename_i hlate
    rw [if_neg hlate]
    split at h
    · rename_i id ht
      simp only [register] at h
      split at h
      · obtain ⟨v, hv, rfl⟩ := List.mem_map.mp h
        split
        · exact .inr ⟨rfl, ht⟩
        · exact .inl hv
      · rcases List.mem_append.mp h with hold | hnew
        · exact .inl hold
        · cases List.mem_singleton.mp hnew
          exact .inr ⟨rfl, ht⟩
    · rcases List.mem_append.mp h with hold | hnew
      · exact .inl hold
      · cases List.mem_singleton.mp hnew
        exact .inr ⟨rfl, rfl⟩

/-- `poll` that is pending preserves the id. -/
theorem poll_id {id : Nat} (ht : n.id = some id)
    (hlate : (c.poll n waker).2.2 = false) :
    (c.poll n waker).2.1.id = some id := by
  unfold poll at hlate ⊢
  split at hlate
  · cases hlate
  · rename_i hnow
    rw [if_neg hnow]
    simp only [ht]

end ManualClock

namespace Page

variable {p q : Page}

/-! ## Pipelines due for a poll -/

/-- `p.DueQueued`: a pipeline that is due for a poll is queued. -/
def DueQueued (p : Page) : Prop :=
  ∀ (s : PipelineId) (pipe : Pipeline), p.pipelines[s]? = some pipe → pipe.isDue = true →
    s ∈ p.woken ∨ s ∈ p.spawned

/-- `DueQueued` is preserved if a pipeline changes and is not due afterwards. -/
private theorem DueQueued.of_modify (h : p.DueQueued) {t : PipelineId}
    {change : Pipeline → Pipeline} (hs : q.pipelines = p.pipelines.modify t change)
    (hw : q.woken = p.woken) (hsp : q.spawned = p.spawned)
    (hchange : ∀ pipe, p.pipelines[t]? = some pipe → (change pipe).isDue = false) :
    q.DueQueued := by
  intro s pipe hpipe hdue
  rw [hs, List.getElem?_modify] at hpipe
  obtain ⟨old, hold, rfl⟩ := Option.map_eq_some_iff.mp hpipe
  rw [hw, hsp]
  by_cases hts : t = s
  · subst hts
    simp only [if_true, hchange old hold] at hdue
    cases hdue
  · simp only [hts, if_false] at hdue
    exact h s old hold hdue

private theorem isDue_at {pipe : Pipeline} (hlive : pipe.isLive = true) {stage : Stage}
    (hstage : 0 < stage.rank) : (pipe.at stage).isDue = false := by
  have ha : pipe.aborted = false := (Pipeline.isLive_iff.mp hlive).2
  simp [Pipeline.isDue, Pipeline.at, ha, Nat.ne_of_gt hstage]

/-- `wokenAborting` preserves the woken pipelines. -/
theorem mem_wokenAborting {s : PipelineId} (h : s ∈ p.woken)
    (flight : Option PipelineId) : s ∈ p.wokenAborting flight := by
  cases flight with
  | none => exact h
  | some t =>
    simp only [wokenAborting]
    split
    · exact h
    · split
      · exact h
      · exact List.mem_append_left _ h

/-- `wokenAborting` queues the aborted pipeline. -/
private theorem queued_aborting (p : Page) (s : PipelineId) :
    s ∈ p.wokenAborting (some s) ∨ s ∈ p.spawned := by
  simp only [wokenAborting]
  split
  · rename_i hs
    exact .inr (List.contains_iff_mem.mp hs)
  · split
    · rename_i hw
      exact .inl (List.contains_iff_mem.mp hw)
    · exact .inl (List.mem_append_right _ (List.mem_singleton.mpr rfl))

/-- `DueQueued` is preserved by every move except `clear`. -/
theorem Move.dueQueued {kind : Kind} (move : Move kind p q) (hkind : kind ≠ .clear)
    (h : p.DueQueued) : q.DueQueued := by
  cases move with
  | tree e =>
    obtain ⟨_, _, _, rfl⟩ := e.kept.only
    exact h
  | mark | create | bind | unbind | rebind | replace | adopt | drop | refuse | ask | advance
  | pollSleep | dropSleep | fault | mend | note | other => exact h
  | clear => exact absurd rfl hkind
  | wake _ _ hw => exact fun s pipe hpipe hdue => (h s pipe hpipe hdue).imp_left (hw s)
  | @disconnect _ _ k =>
    intro s pipe hpipe hdue
    cases hf : k.inFlight with
    | none =>
      rw [hf] at hpipe
      exact h s pipe hpipe hdue
    | some t =>
      rw [hf] at hpipe
      simp only [pipelinesAborting, List.getElem?_modify] at hpipe
      obtain ⟨old, hold, rfl⟩ := Option.map_eq_some_iff.mp hpipe
      by_cases hts : t = s
      · subst hts
        exact queued_aborting p t
      · simp only [hts, if_false] at hdue
        exact (h s old hold hdue).imp_left fun hw => mem_wokenAborting hw (some t)
  | start =>
    intro s pipe hpipe hdue
    simp only [List.getElem?_append] at hpipe
    split at hpipe
    · exact (h s pipe hpipe hdue).imp_right fun hs => List.mem_append_left _ hs
    · rename_i hlt
      -- the new pipeline is spawned with its index
      have hle : s - p.pipelines.length < 1 := (List.getElem?_eq_some_iff.mp hpipe).1
      have hs : s = p.pipelines.length :=
        Nat.le_antisymm (Nat.sub_eq_zero_iff_le.mp (Nat.lt_one_iff.mp hle)) (Nat.not_lt.mp hlt)
      exact .inr (List.mem_append_right _ (List.mem_singleton.mpr hs))
  | await hs reply payload =>
    obtain ⟨pipe, hpipe, -, hlive⟩ := hs.liveAt
    refine h.of_modify rfl rfl rfl fun pipe' hpipe' => ?_
    rw [hpipe] at hpipe'
    cases hpipe'
    exact isDue_at hlive (Nat.zero_lt_succ _)
  | sleep hpipe _ hlive | finish hpipe _ hlive | finishGone hpipe _ hlive =>
    refine h.of_modify rfl rfl rfl fun pipe' hpipe' => ?_
    rw [hpipe] at hpipe'
    cases hpipe'
    exact isDue_at hlive (Nat.zero_lt_succ _)
  | dropAborted => exact h.of_modify rfl rfl rfl fun _ _ => rfl

/-- `DueIn p l`: every pipeline that is due is in `l`. -/
private def DueIn (p : Page) (l : List PipelineId) : Prop :=
  ∀ (s : PipelineId) (pipe : Pipeline), p.pipelines[s]? = some pipe → pipe.isDue = true →
    s ∈ l

/-- `PolledAt s p q`: `p` and `q` have the same pipelines except for `s`, which keeps its owner and
its `aborted` flag. -/
structure PolledAt (s : PipelineId) (p q : Page) : Prop where
  others : ∀ t, t ≠ s → q.pipelines[t]? = p.pipelines[t]?
  own : ∀ pipe', q.pipelines[s]? = some pipe' → ∃ pipe, p.pipelines[s]? = some pipe ∧
    pipe'.owner = pipe.owner ∧ pipe'.aborted = pipe.aborted

theorem PolledAt.refl (s : PipelineId) (p : Page) : PolledAt s p p :=
  ⟨fun _ _ => rfl, fun pipe hpipe => ⟨pipe, hpipe, rfl, rfl⟩⟩

private theorem PolledAt.of_modify {r : Page} {s : PipelineId} (h : PolledAt s p q)
    {stage : Stage} (hr : r.pipelines = q.pipelines.modify s (Pipeline.at stage)) :
    PolledAt s p r where
  others t hts := by
    rw [hr, List.getElem?_modify_ne _ _ (Ne.symm hts), h.others t hts]
  own pipe' hpipe' := by
    rw [hr, List.getElem?_modify_eq] at hpipe'
    obtain ⟨pipe, hpipe, rfl⟩ := Option.map_eq_some_iff.mp hpipe'
    exact h.own pipe hpipe

theorem poll_polledAt (p : Page) (s : PipelineId) : PolledAt s p (p.poll s) := by
  cases hpipe : p.pipelines[s]? with
  | none =>
    rw [poll_of_none hpipe]
    exact .refl s p
  | some pipe =>
    refine (poll_course hpipe).keeps (I := PolledAt s p) (fun kind q r hkind move ih => ?_)
      (.refl s p)
    cases move with
    | tree e =>
      obtain ⟨_, _, _, rfl⟩ := e.kept.only
      exact ⟨ih.others, ih.own⟩
    | create | bind | unbind | rebind | replace | adopt | ask | note =>
      exact ⟨ih.others, ih.own⟩
    | await | sleep | finish | finishGone | dropAborted =>
      cases (show _ = s from hkind)
      exact ih.of_modify rfl
    | mark | disconnect | drop | start | refuse | clear | wake | advance | pollSleep | dropSleep
    | fault | mend | other => exact hkind.elim

/-- `poll` of an aborted pipeline ends it. -/
private theorem poll_of_aborted {s : PipelineId} {pipe : Pipeline}
    (hpipe : p.pipelines[s]? = some pipe) (ha : pipe.aborted = true) :
    (p.poll s).pipelines[s]? = some (pipe.at .finished) := by
  unfold poll
  rw [hpipe]
  simp only [ha, if_true, dropAborted]
  cases pipe.stage <;> simp [setStage, modifyPipeline, hpipe, Pipeline.at]

private theorem setStage_stage {s : PipelineId} {stage : Stage} {pipe' : Pipeline}
    (h : (p.setStage s stage).pipelines[s]? = some pipe') : pipe'.stage = stage := by
  simp only [setStage, modifyPipeline, List.getElem?_modify_eq] at h
  obtain ⟨pipe, -, rfl⟩ := Option.map_eq_some_iff.mp h
  rfl

/-- `settle` reaches the settle delay or the end. -/
theorem settle_rank {s : PipelineId} {c : ComponentId} {sleep : Sleep} {pipe' : Pipeline}
    (h : (p.settle s c sleep).pipelines[s]? = some pipe') : 2 ≤ pipe'.stage.rank := by
  unfold settle at h
  split at h <;> rw [setStage_stage h] <;> simp [Stage.rank]

private theorem resume_stage {s : PipelineId} {c : ComponentId} {x : Exchange}
    {pipe' : Pipeline} (h : (x.resume s c).pipelines[s]? = some pipe') :
    0 < pipe'.stage.rank := by
  cases x with
  | waiting q call payload =>
    rw [setStage_stage h]
    exact Nat.zero_lt_one
  | ended q result => exact Nat.lt_of_lt_of_le Nat.zero_lt_two (settle_rank h)

/-- `poll` leaves no pipeline at its first stage. -/
theorem poll_rank {s : PipelineId} {pipe' : Pipeline}
    (h : (p.poll s).pipelines[s]? = some pipe') : 0 < pipe'.stage.rank := by
  obtain ⟨pipe, hpipe, -⟩ := (poll_polledAt p s).own pipe' h
  cases ha : pipe.aborted with
  | true =>
    rw [poll_of_aborted hpipe ha] at h
    cases h
    exact Nat.zero_lt_succ _
  | false =>
    unfold poll at h
    rw [hpipe] at h
    simp only [ha, Bool.false_eq_true, if_false] at h
    cases hs : pipe.stage with
    | accepted f payload =>
      rw [hs] at h
      exact resume_stage h
    | awaiting call payload =>
      rw [hs] at h
      exact resume_stage h
    | settling sleep =>
      rw [hs] at h
      exact Nat.lt_of_lt_of_le Nat.zero_lt_two (settle_rank h)
    | finished =>
      rw [hs] at h
      simp only [hpipe] at h
      cases h
      rw [hs]
      exact Nat.zero_lt_succ _

/-- `poll` leaves its pipeline not due. -/
theorem poll_not_due {s : PipelineId} {pipe' : Pipeline}
    (h : (p.poll s).pipelines[s]? = some pipe') : pipe'.isDue = false := by
  obtain ⟨pipe, hpipe, -, ha⟩ := (poll_polledAt p s).own pipe' h
  cases hcase : pipe.aborted with
  | true =>
    rw [poll_of_aborted hpipe hcase] at h
    cases h
    rfl
  | false => simp [Pipeline.isDue, ha, hcase, Nat.ne_of_gt (poll_rank h)]

private theorem DueIn.poll {s : PipelineId} {l : List PipelineId}
    (h : p.DueIn (s :: l)) : (p.poll s).DueIn l := by
  intro t pipe' hpipe' hdue
  by_cases hts : t = s
  · subst hts
    rw [poll_not_due hpipe'] at hdue
    cases hdue
  · rw [(poll_polledAt p s).others t hts] at hpipe'
    exact List.mem_of_ne_of_mem hts (h t pipe' hpipe' hdue)

private theorem DueIn.polls {l : List PipelineId} (h : p.DueIn l) :
    (l.foldl Page.poll p).DueIn [] := by
  induction l generalizing p with
  | nil => exact h
  | cons s rest ih => exact ih h.poll

/-- No pipeline is due after `run`. -/
theorem run_due (h : p.DueQueued) {s : PipelineId} {pipe : Pipeline}
    (hpipe : p.run.pipelines[s]? = some pipe) : pipe.isDue = false := by
  have hall : ({ p with woken := [], spawned := [] } : Page).DueIn (p.woken ++ p.spawned) :=
    fun s pipe hpipe hdue => List.mem_append.mpr (h s pipe hpipe hdue)
  refine Bool.eq_false_iff.mpr fun hdue => ?_
  cases hall.polls s pipe hpipe hdue

/-- No pipeline is due after the action `run`. -/
theorem perform_run_due (h : p.DueQueued) {s : PipelineId} {pipe : Pipeline}
    (hpipe : (p.perform .run).1.pipelines[s]? = some pipe) : pipe.isDue = false := by
  refine run_due h (s := s) ?_
  rw [← sweep_pipelines]
  exact hpipe

/-- `DueQueued` holds on every reachable page. -/
theorem Reachable.dueQueued (h : p.Reachable) : p.DueQueued := by
  refine h.keeps (fun s pipe hpipe => by cases hpipe) fun p a _ hp => ?_
  by_cases ha : a = .run
  · subst ha
    intro s pipe hpipe hdue
    rw [perform_run_due hp hpipe] at hdue
    cases hdue
  · exact (perform_course p a).keeps (fun kind q r hkind move hq => move.dueQueued
      (by rintro rfl; exact ha hkind) hq) hp

/-! ## Pipelines with a registered sleep -/

/-- `p.WakersKnown`: a pipeline with a registered sleep is settling, and has its id. -/
def WakersKnown (p : Page) : Prop :=
  ∀ w ∈ p.clock.waiters, ∀ s, w.waker = some s → ∃ pipe sleep, p.pipelines[s]? = some pipe ∧
    pipe.stage = .settling sleep ∧ sleep.id = some w.id

/-- `WakersKnown` is preserved if a pipeline changes together with its sleep. -/
private theorem WakersKnown.of_modify (h : p.WakersKnown) {s : PipelineId}
    {change : Pipeline → Pipeline} (hs : q.pipelines = p.pipelines.modify s change)
    (hold : ∀ w ∈ q.clock.waiters, ∀ t, w.waker = some t → t ≠ s → w ∈ p.clock.waiters)
    (hown : ∀ w ∈ q.clock.waiters, w.waker = some s → ∃ pipe sleep,
      p.pipelines[s]? = some pipe ∧ (change pipe).stage = .settling sleep ∧
        sleep.id = some w.id) : q.WakersKnown := by
  intro w hw t ht
  rw [hs]
  by_cases hst : t = s
  · subst hst
    obtain ⟨pipe, sleep, hpipe, hstage, hid⟩ := hown w hw ht
    exact ⟨change pipe, sleep, by rw [List.getElem?_modify_eq, hpipe]; rfl, hstage, hid⟩
  · rw [List.getElem?_modify_ne _ _ (Ne.symm hst)]
    exact h w (hold w hw t ht hst) t ht

/-- The registered sleep of a settling pipeline is that of its stage. -/
private theorem WakersKnown.own (h : p.WakersKnown) {s : PipelineId} {pipe : Pipeline}
    {sleep : Sleep} (hpipe : p.pipelines[s]? = some pipe)
    (hsleep : pipe.stage = .settling sleep ∨ pipe.stage.isExchange = true ∧ sleep.id = none)
    {w : Waiter} (hw : w ∈ p.clock.waiters) (ht : w.waker = some s) :
    sleep.id = some w.id := by
  obtain ⟨pipe', sleep', hpipe', hstage, hid⟩ := h w hw s ht
  rw [hpipe] at hpipe'
  cases hpipe'
  rcases hsleep with hsettling | ⟨hexchange, -⟩
  · rw [hstage] at hsettling
    cases hsettling
    exact hid
  · rw [hstage] at hexchange
    cases hexchange

/-- `WakersKnown` is preserved by every move. -/
theorem Move.wakersKnown {kind : Kind} (move : Move kind p q) (h : p.WakersKnown) :
    q.WakersKnown := by
  cases move with
  | tree e =>
    obtain ⟨_, _, _, rfl⟩ := e.kept.only
    exact h
  | mark | create | bind | unbind | rebind | replace | adopt | drop | refuse | ask | clear | wake
  | fault | mend | note | other => exact h
  | advance => exact fun w hw => h w (List.mem_filter.mp hw).1
  | dropSleep => exact fun w hw => h w (ManualClock.mem_release hw).1
  | pollSleep =>
    intro w hw s hs
    rcases ManualClock.mem_poll hw with hold | ⟨hnone, -⟩
    · exact h w hold s hs
    · rw [hnone] at hs
      cases hs
  | @disconnect _ _ k =>
    cases hf : k.inFlight with
    | none => exact h
    | some t => exact h.of_modify rfl (fun w hw _ _ _ => hw) fun w hw ht => h w hw t ht
  | start =>
    intro w hw s hs
    obtain ⟨pipe, sleep, hpipe, hrest⟩ := h w hw s hs
    refine ⟨pipe, sleep, ?_, hrest⟩
    rw [List.getElem?_append_left (List.getElem?_eq_some_iff.mp hpipe).1]
    exact hpipe
  | await hs =>
    -- a pipeline in its exchange has no sleep
    obtain ⟨pipe, hpipe, -, -, hexchange⟩ := hs
    refine h.of_modify rfl (fun w hw _ _ _ => hw) fun w hw ht => ?_
    obtain ⟨pipe', sleep, hpipe', hstage, -⟩ := h w hw _ ht
    rw [hpipe] at hpipe'
    cases hpipe'
    rw [hstage] at hexchange
    cases hexchange
  | sleep hpipe hown hlive hsleep hnow =>
    refine h.of_modify rfl (fun w hw t ht hts => ?_) fun w hw ht => ⟨_, _, hpipe, rfl, ?_⟩
    · rcases ManualClock.mem_poll hw with hold | ⟨hnew, -⟩
      · exact hold
      · rw [ht] at hnew
        exact absurd (Option.some.inj hnew) hts
    · rcases ManualClock.mem_poll hw with hold | ⟨-, hid⟩
      · exact ManualClock.poll_id (h.own hpipe hsleep hold ht) hnow
      · exact hid
  | finish hpipe hown hlive hsleep hk hnow | finishGone hpipe hown hlive hsleep hk hnow =>
    refine h.of_modify rfl (fun w hw _ _ _ => (ManualClock.mem_poll_over hnow hw).1)
      fun w hw ht => ?_
    obtain ⟨hold, hne⟩ := ManualClock.mem_poll_over hnow hw
    exact absurd (h.own hpipe hsleep hold ht) hne
  | @dropAborted _ _ pipe hpipe ha =>
    cases hstage : pipe.stage with
    | settling sleep =>
      refine h.of_modify rfl (fun w hw _ _ _ => (ManualClock.mem_release hw).1) fun w hw ht => ?_
      obtain ⟨hold, hne⟩ := ManualClock.mem_release hw
      exact absurd (h.own hpipe (.inl hstage) hold ht) hne
    | accepted | awaiting | finished =>
      refine h.of_modify rfl (fun w hw _ _ _ => hw) fun w hw ht => ?_
      obtain ⟨pipe', sleep, hpipe', hstage', -⟩ := h w hw _ ht
      rw [hpipe] at hpipe'
      cases hpipe'
      rw [hstage] at hstage'
      cases hstage'

theorem Visited.wakersKnown (h : p.Visited) : p.WakersKnown :=
  h.keeps (fun w hw => by cases hw) fun _ _ _ move => move.wakersKnown

end Page

end FormSwap
