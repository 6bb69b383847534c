import FormSwap.Proofs.Stall

/-!
# The end of the settle delay

The run in which the exchange of a pipeline ends fixes the time at which its component becomes idle:
the settle delay from then on. It does not depend on the outcome of the exchange, and neither runs
nor advances change it.

Main results:

- `run_settlesBy`: the run that ends an exchange fixes the end of the settle delay
- `Move.settlesBy`: only a detachment changes it
-/

namespace FormSwap

namespace Page

/-! ## The deadline -/

/-- `p.SettlesBy s deadline`: `s` settles until `deadline`, or has ended at that time or later. -/
def SettlesBy (p : Page) (s : PipelineId) (deadline : Duration) : Prop :=
  ∃ pipe, p.pipelines[s]? = some pipe ∧ pipe.aborted = false ∧
    ((∃ sleep, pipe.stage = .settling sleep ∧ sleep.deadline = deadline) ∨
      pipe.stage = .finished ∧ deadline ≤ p.clock.now)

section Deadline

variable {kind : Kind} {p q : Page} {c : ComponentId} {k : Component} {s : PipelineId}
  {pipe : Pipeline} {deadline : Duration}

/-- Only a `clock` move changes the time. -/
theorem Move.now_eq (move : Move kind p q) (hkind : kind ≠ .clock) :
    q.clock.now = p.clock.now := by
  cases move with
  | tree e =>
    obtain ⟨_, _, _, rfl⟩ := e.kept.only
    rfl
  | sleep | finish | finishGone => exact ManualClock.now_poll _ _ _
  | @dropAborted _ _ pipe =>
    simp only [clockDropping]
    cases pipe.stage with
    | settling sleep => exact ManualClock.now_release _ _
    | accepted | awaiting | finished => rfl
  | advance | pollSleep | dropSleep => exact absurd rfl hkind
  | mark | create | bind | unbind | rebind | replace | adopt | disconnect | drop | start | refuse
  | ask | await | clear | wake | fault | mend | note | other => rfl

/-- The time does not decrease. -/
theorem Move.now_le (move : Move kind p q) : p.clock.now ≤ q.clock.now := by
  by_cases hkind : kind = .clock
  · subst hkind
    cases move with
    | advance => exact Duration.le_add_right _ _
    | pollSleep => simp [Duration.le_iff]
    | dropSleep => simp [Duration.le_iff]
  · rw [move.now_eq hkind]
    exact Nat.le_refl _

theorem Course.now_eq {S : Kind → Prop} (h : Course S p q) (hS : ¬ S .clock) :
    q.clock.now = p.clock.now :=
  h.keeps (I := fun r => r.clock.now = p.clock.now)
    (fun _ _ _ hkind move ih => (move.now_eq (by rintro rfl; exact hS hkind)).trans ih) rfl

theorem SettlesBy.not_exchanging (h : p.SettlesBy s deadline) : ¬ p.Exchanging c s := by
  rintro ⟨pipe', hpipe', -, -, hexchange⟩
  obtain ⟨pipe, hpipe, -, hstage⟩ := h
  rw [hpipe] at hpipe'
  cases hpipe'
  rcases hstage with ⟨sleep, hsettling, -⟩ | ⟨hfinished, -⟩
  · rw [hsettling] at hexchange
    cases hexchange
  · rw [hfinished] at hexchange
    cases hexchange

/-- `SettlesBy` is preserved if the pipeline does not change and the time does not decrease. -/
theorem SettlesBy.of_same (h : p.SettlesBy s deadline)
    (hpipe : q.pipelines[s]? = p.pipelines[s]?) (hnow : p.clock.now ≤ q.clock.now) :
    q.SettlesBy s deadline := by
  obtain ⟨pipe, hs, ha, hstage⟩ := h
  refine ⟨pipe, hpipe.trans hs, ha, ?_⟩
  rcases hstage with hsettling | ⟨hfinished, hle⟩
  · exact .inl hsettling
  · exact .inr ⟨hfinished, Duration.le_trans hle hnow⟩

/-- The sleep that a settling pipeline polls has the deadline. -/
theorem SettlesBy.sleep_eq (h : p.SettlesBy s deadline) (hpipe : p.pipelines[s]? = some pipe)
    (hlive : pipe.isLive = true) {sleep : Sleep}
    (hsleep : pipe.stage = .settling sleep ∨ pipe.stage.isExchange = true ∧ sleep.id = none) :
    pipe.aborted = false ∧ sleep.deadline = deadline := by
  obtain ⟨pipe', hpipe', ha, hstage⟩ := h
  rw [hpipe] at hpipe'
  cases hpipe'
  refine ⟨ha, ?_⟩
  rcases hstage with ⟨sleep', hsettling, hdeadline⟩ | ⟨hfinished, -⟩
  · rw [hsettling] at hsleep
    rcases hsleep with heq | ⟨hexchange, -⟩
    · cases heq
      exact hdeadline
    · cases hexchange
  · simp [Pipeline.isLive, Pipeline.isOpen, hfinished] at hlive

/-- `SettlesBy` is preserved by every move except a detachment. -/
theorem Move.settlesBy (move : Move kind p q) (hkind : ∀ c, kind ≠ .disconnect c)
    (h : p.SettlesBy s deadline) : q.SettlesBy s deadline := by
  have hnow := move.now_le
  cases move with
  | tree e =>
    obtain ⟨_, _, _, rfl⟩ := e.kept.only
    exact h
  | mark | create | bind | unbind | rebind | replace | adopt | drop | refuse | ask | clear | wake
  | advance | pollSleep | dropSleep | fault | mend | note | other => exact h.of_same rfl hnow
  | disconnect => exact absurd rfl (hkind _)
  | start =>
    refine h.of_same ?_ hnow
    obtain ⟨pipe, hpipe, -⟩ := h
    rw [List.getElem?_append_left (List.getElem?_eq_some_iff.mp hpipe).1]
  | @await _ c t hs =>
    have hts : t ≠ s := by
      rintro rfl
      exact h.not_exchanging hs
    exact h.of_same (List.getElem?_modify_ne _ _ hts) hnow
  | @sleep _ c t pipe sleep hpipe hown hlive hsleep hlate =>
    by_cases hts : t = s
    · subst hts
      obtain ⟨ha, hdeadline⟩ := h.sleep_eq hpipe hlive hsleep
      -- `poll` preserves the deadline
      refine ⟨pipe.at (.settling (p.clock.poll sleep (some t)).2.1), ?_, ha, .inl ⟨_, rfl, ?_⟩⟩
      · rw [List.getElem?_modify_eq, hpipe]
        rfl
      · rw [ManualClock.deadline_poll, hdeadline]
    · exact h.of_same (List.getElem?_modify_ne _ _ hts) hnow
  | @finish _ c k t pipe sleep hpipe hown hlive hsleep hk hover
  | @finishGone _ c t pipe sleep hpipe hown hlive hsleep hk hover =>
    by_cases hts : t = s
    · subst hts
      obtain ⟨ha, hdeadline⟩ := h.sleep_eq hpipe hlive hsleep
      -- it ends no earlier than its deadline
      refine ⟨pipe.at .finished, by rw [List.getElem?_modify_eq, hpipe]; rfl, ha, .inr ⟨rfl, ?_⟩⟩
      rw [ManualClock.now_poll, ← hdeadline]
      exact ManualClock.poll_over_iff.mp hover
    · exact h.of_same (List.getElem?_modify_ne _ _ hts) hnow
  | @dropAborted _ t pipe hpipe ha =>
    -- only an aborted pipeline is dropped
    have hts : t ≠ s := by
      rintro rfl
      obtain ⟨pipe', hpipe', ha', -⟩ := h
      rw [hpipe] at hpipe'
      cases hpipe'
      rw [ha] at ha'
      cases ha'
    exact h.of_same (List.getElem?_modify_ne _ _ hts) hnow

theorem SettlesBy.course {S : Kind → Prop} (h : p.SettlesBy s deadline) (hpq : Course S p q)
    (hS : ∀ c, ¬ S (.disconnect c)) : q.SettlesBy s deadline :=
  hpq.keeps (fun _ _ _ hkind move ih => move.settlesBy (by rintro c rfl; exact hS c hkind) ih) h

/-! ## The run that ends the exchange -/

/-- `settle` establishes `SettlesBy`. -/
theorem settle_settlesBy (hpipe : p.pipelines[s]? = some pipe) (ha : pipe.aborted = false)
    (c : ComponentId) (sleep : Sleep) : (p.settle s c sleep).SettlesBy s sleep.deadline := by
  obtain ⟨stage, hq, hleft, -, hclock, -, -⟩ := settle_eq p s c sleep
  have hget : (p.settle s c sleep).pipelines[s]? = some (pipe.at stage) := by
    rw [hq, List.getElem?_modify_eq, hpipe]
    rfl
  have hrank : 2 ≤ stage.rank := settle_rank hget
  refine ⟨pipe.at stage, hget, ha, ?_⟩
  rw [hclock, ManualClock.now_poll]
  unfold ManualClock.left? at hleft
  cases stage with
  | accepted | awaiting => simp [Stage.rank] at hrank
  | settling sleep' =>
    split at hleft
    · cases hleft
    · cases hleft
      exact .inl ⟨_, rfl, ManualClock.deadline_poll _ _ _⟩
  | finished =>
    split at hleft
    · rename_i hover
      exact .inr ⟨rfl, ManualClock.poll_over_iff.mp hover⟩
    · cases hleft

theorem conclude_settlesBy (hpipe : p.pipelines[s]? = some pipe) (ha : pipe.aborted = false)
    (hk : p.component? c = some k) (result : Except SubmitError Nat) :
    (p.conclude s c result).SettlesBy s (p.clock.now + k.config.delay) := by
  have hdelay : ((p.note (resultNotice result)).component? c).map (·.config.delay) =
      some k.config.delay := by
    simp only [note]
    exact congrArg (Option.map _) hk
  unfold conclude
  dsimp only
  rw [hdelay]
  exact settle_settlesBy (p := p.note (resultNotice result)) hpipe ha c _

/-- `receive` and `resume` establish `SettlesBy`, with any outcome. -/
theorem receive_settlesBy (hs : p.Exchanging c s) (hk : p.component? c = some k)
    (payload : Payload) (outcome : Outcome) :
    ((p.receive c payload outcome).resume s c).SettlesBy s (p.clock.now + k.config.delay) := by
  obtain ⟨pipe, hpipe, -, ha, -⟩ := id hs
  unfold receive
  split
  · exact conclude_settlesBy hpipe ha hk _
  · split
    · exact conclude_settlesBy hpipe ha hk _
    · split
      · exact conclude_settlesBy hpipe ha hk _
      · rename_i q hq
        -- the swap changes neither the time nor the delay
        have hswap := applyResponse_course hs hq
        obtain ⟨k', hk', -, hconfig⟩ := hswap.mounted id hk
        have hnow : q.clock.now = p.clock.now := hswap.now_eq id
        rw [← hnow, ← hconfig]
        exact conclude_settlesBy (by rw [hswap.pipelines_eq, hpipe]) ha hk' _

theorem pollCall_settlesBy (hs : p.Exchanging c s) (hk : p.component? c = some k) (call : Call)
    (payload : Payload) :
    ((p.pollCall c call payload).resume s c).Exchanging c s ∨
      ((p.pollCall c call payload).resume s c).SettlesBy s (p.clock.now + k.config.delay) := by
  unfold pollCall
  split
  · rename_i transport call' _
    obtain ⟨pipe, hpipe, hown, ha, -⟩ := hs
    refine .inl ⟨pipe.at (.awaiting call' payload), ?_, hown, ha, rfl⟩
    simp only [Exchange.resume, setStage, modifyPipeline, List.getElem?_modify_eq, hpipe]
    rfl
  · rename_i transport outcome _
    exact .inr (receive_settlesBy (p := { p with transport }) hs hk payload outcome)

/-- `poll` leaves its pipeline `Exchanging`, or establishes `SettlesBy`. -/
theorem poll_settlesBy (hs : p.Exchanging c s) (hk : p.component? c = some k) :
    (p.poll s).Exchanging c s ∨ (p.poll s).SettlesBy s (p.clock.now + k.config.delay) := by
  obtain ⟨⟨owner, stage, aborted⟩, hpipe, rfl, rfl, hexchange⟩ := id hs
  unfold poll
  rw [hpipe]
  dsimp only
  rw [if_neg (by simp)]
  cases stage with
  | accepted f payload =>
    dsimp only
    unfold firstExchange
    split
    · exact .inr (conclude_settlesBy hpipe rfl hk _)
    · split
      · exact .inr (conclude_settlesBy hpipe rfl hk _)
      · exact pollCall_settlesBy hs hk _ _
  | awaiting call payload => exact pollCall_settlesBy hs hk call payload
  | settling | finished => cases hexchange

/-- `p.Heading c s deadline`: `s` is `Exchanging` and would settle by `deadline`, or it
`SettlesBy`. -/
def Heading (p : Page) (c : ComponentId) (s : PipelineId) (deadline : Duration) : Prop :=
  (p.Exchanging c s ∧ ∃ k, p.component? c = some k ∧ p.clock.now + k.config.delay = deadline) ∨
    p.SettlesBy s deadline

/-- `Heading` is preserved by a poll of any pipeline. -/
theorem Heading.poll (h : p.Heading c s deadline) (t : PipelineId) :
    (p.poll t).Heading c s deadline := by
  cases hpipe : p.pipelines[t]? with
  | none => rwa [poll_of_none hpipe]
  | some pipe =>
    have hcourse := poll_course hpipe
    rcases h with ⟨hs, k, hk, rfl⟩ | hsettles
    · have hnow : (p.poll t).clock.now = p.clock.now := hcourse.now_eq id
      obtain ⟨k', hk', -, hconfig⟩ := hcourse.mounted id hk
      have hstill (hs' : (p.poll t).Exchanging c s) :
          (p.poll t).Heading c s (p.clock.now + k.config.delay) :=
        .inl ⟨hs', k', hk', by rw [hnow, hconfig]⟩
      by_cases hts : t = s
      · subst hts
        exact (poll_settlesBy hs hk).elim hstill .inr
      · obtain ⟨own, hown, hrest⟩ := hs
        exact hstill ⟨own, ((poll_polledAt p t).others s (Ne.symm hts)).trans hown, hrest⟩
    · exact .inr (hsettles.course hcourse fun _ => id)

theorem Heading.polls (h : p.Heading c s deadline) (l : List PipelineId) :
    (l.foldl Page.poll p).Heading c s deadline := by
  induction l generalizing p with
  | nil => exact h
  | cons t rest ih => exact ih (h.poll t)

/-- The run that ends an exchange establishes `SettlesBy`. -/
theorem run_settlesBy (hk : p.component? c = some k) (hs : p.Exchanging c s)
    (hend : ¬ (p.perform .run).1.Exchanging c s) :
    (p.perform .run).1.SettlesBy s (p.clock.now + k.config.delay) := by
  have hheading : p.run.Heading c s (p.clock.now + k.config.delay) :=
    Heading.polls (p := { p with woken := [], spawned := [] }) (.inl ⟨hs, k, hk, rfl⟩) _
  rcases hheading with ⟨hs', -⟩ | hsettles
  · refine absurd ?_ hend
    obtain ⟨pipe, hpipe, hrest⟩ := hs'
    exact ⟨pipe, by rw [← sweep_pipelines] at hpipe; exact hpipe, hrest⟩
  · exact hsettles.course (sweep_course p.run) fun _ => id

end Deadline

end Page

end FormSwap
