import FormSwap.Proofs.Course

/-!
# Components and their pipelines

A component is submitting exactly if it has a live pipeline, and its `inFlight` is that pipeline. So
no component ever has two. Every move preserves this, whatever the user does and whatever fails.

Main results:

- `Move.inStep`: every move preserves `InStep`
- `Visited.inStep`: `InStep` holds on every visited page
-/

namespace FormSwap.Page

/-- `p.InStep`: the states and `inFlight` fields of the components agree with the pipelines. -/
structure InStep (p : Page) : Prop where
  /-- An open pipeline belongs to a component that was not dropped. -/
  owned : ∀ (s : PipelineId) (pipe : Pipeline), p.pipelines[s]? = some pipe →
    pipe.isOpen = true → (p.component? pipe.owner).isSome = true
  /-- A component is submitting exactly if its `inFlight` is set. -/
  busy : ∀ (c : ComponentId) (k : Component), p.component? c = some k →
    (k.state = .submitting ↔ k.inFlight.isSome = true)
  /-- The `inFlight` of a component is its live pipeline. -/
  flight : ∀ (c : ComponentId) (k : Component), p.component? c = some k →
    ∀ s, k.inFlight = some s ↔ p.LiveAt c s

namespace InStep

variable {p q : Page}

/-- An idle component has no `inFlight`. -/
theorem inFlight_of_idle (h : p.InStep) {c : ComponentId} {k : Component}
    (hk : p.component? c = some k) (hi : k.state = .idle) : k.inFlight = none := by
  cases hf : k.inFlight with
  | none => rfl
  | some s =>
    have hbusy := (h.busy c k hk).mpr (by rw [hf]; rfl)
    rw [hi] at hbusy
    cases hbusy

/-- A component has at most one live pipeline. -/
theorem live_unique (h : p.InStep) {c : ComponentId} {s t : PipelineId} (hs : p.LiveAt c s)
    (ht : p.LiveAt c t) : s = t := by
  obtain ⟨pipe, hpipe, rfl, hlive⟩ := hs
  obtain ⟨k, hk⟩ :=
    Option.isSome_iff_exists.mp (h.owned s pipe hpipe (Pipeline.isLive_iff.mp hlive).1)
  have hs' := (h.flight _ k hk s).mpr ⟨pipe, hpipe, rfl, hlive⟩
  have ht' := (h.flight _ k hk t).mpr ht
  exact Option.some.inj (hs'.symm.trans ht')

/-- A change of a component drops none. -/
private theorem isSome_of_modify {c d : ComponentId} {change : Component → Component}
    (hc : q.components = p.components.modify c (Option.map change))
    (hd : (p.component? d).isSome = true) : (q.component? d).isSome = true := by
  rw [component?_of_modify hc]
  split
  · rw [Option.isSome_map]
    exact hd
  · exact hd

/-- `InStep` is preserved if a component keeps its state and its `inFlight`. -/
theorem of_modify (h : p.InStep) {c : ComponentId} {change : Component → Component}
    (hc : q.components = p.components.modify c (Option.map change))
    (hs : q.pipelines = p.pipelines) (hstate : ∀ k, (change k).state = k.state)
    (hflight : ∀ k, (change k).inFlight = k.inFlight) : q.InStep where
  owned s pipe hpipe hopen := by
    rw [hs] at hpipe
    exact isSome_of_modify hc (h.owned s pipe hpipe hopen)
  busy d k hk := by
    rw [component?_of_modify hc] at hk
    split at hk
    · obtain ⟨k₀, hk₀, rfl⟩ := Option.map_eq_some_iff.mp hk
      rw [hstate, hflight]
      exact h.busy d k₀ hk₀
    · exact h.busy d k hk
  flight d k hk s := by
    rw [component?_of_modify hc] at hk
    unfold LiveAt
    rw [hs]
    split at hk
    · obtain ⟨k₀, hk₀, rfl⟩ := Option.map_eq_some_iff.mp hk
      rw [hflight]
      exact h.flight d k₀ hk₀ s
    · exact h.flight d k hk s

/-- `InStep` is preserved if a pipeline keeps its owner and is live and open as before. -/
theorem of_pipeline (h : p.InStep) {s : PipelineId} {change : Pipeline → Pipeline}
    (hc : q.components = p.components) (hs : q.pipelines = p.pipelines.modify s change)
    (howner : ∀ pipe, (change pipe).owner = pipe.owner)
    (hopen : ∀ pipe, p.pipelines[s]? = some pipe → (change pipe).isOpen = true →
      pipe.isOpen = true)
    (hlive : ∀ pipe, p.pipelines[s]? = some pipe → (change pipe).isLive = pipe.isLive) :
    q.InStep where
  owned t pipe hpipe ho := by
    rw [hs, List.getElem?_modify] at hpipe
    obtain ⟨old, hold, rfl⟩ := Option.map_eq_some_iff.mp hpipe
    unfold component?
    rw [hc]
    by_cases hst : s = t
    · subst hst
      simp only [if_true, howner] at ho ⊢
      exact h.owned s old hold (hopen old hold ho)
    · simp only [hst, if_false] at ho ⊢
      exact h.owned t old hold ho
  busy c k hk := by
    unfold component? at hk
    rw [hc] at hk
    exact h.busy c k hk
  flight c k hk t := by
    unfold component? at hk
    rw [hc] at hk
    rw [h.flight c k hk t]
    unfold LiveAt
    rw [hs, List.getElem?_modify]
    by_cases hst : s = t
    · subst hst
      constructor
      · rintro ⟨pipe, hpipe, hown, hl⟩
        exact ⟨change pipe, by simp [hpipe], (howner pipe).trans hown, (hlive pipe hpipe).trans hl⟩
      · rintro ⟨pipe', hpipe', hown, hl⟩
        obtain ⟨pipe, hpipe, rfl⟩ := Option.map_eq_some_iff.mp hpipe'
        simp only [if_true, howner, hlive pipe hpipe] at hown hl
        exact ⟨pipe, hpipe, hown, hl⟩
    · simp [hst]

/-- A live pipeline belongs to one component. -/
theorem owner_unique {c d : ComponentId} {s : PipelineId} (hc : p.LiveAt c s)
    (hd : p.LiveAt d s) : c = d := by
  obtain ⟨pipe, hpipe, hown, -⟩ := hc
  obtain ⟨pipe', hpipe', hown', -⟩ := hd
  rw [hpipe] at hpipe'
  cases hpipe'
  exact hown.symm.trans hown'

/-- `InStep` is preserved if a component becomes idle and its pipeline in flight ends or is
aborted. -/
theorem of_ended (h : p.InStep) {c : ComponentId} {k : Component}
    (hk : p.component? c = some k) {madeIdle : Component → Component}
    (hc : q.components = p.components.modify c (Option.map madeIdle))
    (hstate : ∀ k, (madeIdle k).state = .idle) (hflight : ∀ k, (madeIdle k).inFlight = none)
    (ended : Pipeline → Pipeline) (howner : ∀ pipe, (ended pipe).owner = pipe.owner)
    (hopen : ∀ pipe, (ended pipe).isOpen = true → pipe.isOpen = true)
    (hdead : ∀ pipe, (ended pipe).isLive = false)
    (hnone : k.inFlight = none → q.pipelines = p.pipelines)
    (hsome : ∀ s, k.inFlight = some s → q.pipelines = p.pipelines.modify s ended) :
    q.InStep := by
  -- the ended pipeline keeps its owner, so every open pipeline has the owner it had
  have howned : ∀ (t : PipelineId) (pipe : Pipeline), q.pipelines[t]? = some pipe →
      pipe.isOpen = true → (p.component? pipe.owner).isSome = true := by
    intro t pipe hpipe ho
    cases hf : k.inFlight with
    | none =>
      rw [hnone hf] at hpipe
      exact h.owned t pipe hpipe ho
    | some s =>
      rw [hsome s hf, List.getElem?_modify] at hpipe
      obtain ⟨old, hold, rfl⟩ := Option.map_eq_some_iff.mp hpipe
      by_cases hst : s = t
      · simp only [hst, if_true, howner] at ho ⊢
        exact h.owned t old hold (hopen old ho)
      · simp only [hst, if_false] at ho ⊢
        exact h.owned t old hold ho
  -- the live pipelines are those before, without the ended one
  have hlive : ∀ (d : ComponentId) (t : PipelineId),
      q.LiveAt d t ↔ p.LiveAt d t ∧ k.inFlight ≠ some t := by
    intro d t
    unfold LiveAt
    cases hf : k.inFlight with
    | none => simp [hnone hf]
    | some s =>
      rw [hsome s hf, List.getElem?_modify]
      by_cases hst : s = t
      · subst hst
        constructor
        · rintro ⟨pipe, hpipe, -, hl⟩
          obtain ⟨old, -, rfl⟩ := Option.map_eq_some_iff.mp hpipe
          simp [hdead] at hl
        · rintro ⟨-, hne⟩
          exact absurd rfl hne
      · simp [hst]
  refine ⟨fun t pipe hpipe ho => isSome_of_modify hc (howned t pipe hpipe ho),
    fun d k' hk' => ?_, fun d k' hk' t => ?_⟩
  · rw [component?_of_modify hc] at hk'
    split at hk'
    · obtain ⟨k₀, -, rfl⟩ := Option.map_eq_some_iff.mp hk'
      simp [hstate, hflight]
    · exact h.busy d k' hk'
  · rw [component?_of_modify hc] at hk'
    rw [hlive]
    split at hk'
    · rename_i hcd
      subst hcd
      obtain ⟨k₀, -, rfl⟩ := Option.map_eq_some_iff.mp hk'
      rw [hflight, ← h.flight c k hk t]
      simp
    · -- the ended pipeline was not live for another component
      rename_i hcd
      rw [h.flight d k' hk' t]
      refine ⟨fun hl => ⟨hl, fun hf => hcd ?_⟩, And.left⟩
      exact owner_unique ((h.flight c k hk t).mp hf) hl

/-- `InStep` is preserved if an idle component starts a pipeline. -/
theorem of_started (h : p.InStep) {c : ComponentId} {k : Component}
    (hk : p.component? c = some k) (hi : k.state = .idle) (stage : Stage)
    (hopen : ({ owner := c, stage } : Pipeline).isLive = true)
    (hc : q.components = p.components.modify c (Option.map (Component.busy p.pipelines.length)))
    (hs : q.pipelines = p.pipelines ++ [{ owner := c, stage }]) : q.InStep := by
  -- the live pipelines are those before, and the new one
  have hlive : ∀ (d : ComponentId) (t : PipelineId),
      q.LiveAt d t ↔ p.LiveAt d t ∨ d = c ∧ t = p.pipelines.length := by
    intro d t
    unfold LiveAt
    rw [hs]
    rcases Nat.lt_trichotomy t p.pipelines.length with hlt | rfl | hgt
    · rw [List.getElem?_append_left hlt]
      simp [Nat.ne_of_lt hlt]
    · rw [List.getElem?_concat_length]
      constructor
      · rintro ⟨pipe, hpipe, hown, -⟩
        cases hpipe
        exact .inr ⟨hown.symm, rfl⟩
      · rintro (⟨pipe, hpipe, -⟩ | ⟨rfl, -⟩)
        · simp at hpipe
        · exact ⟨_, rfl, rfl, hopen⟩
    · rw [List.getElem?_eq_none (by simp; omega), List.getElem?_eq_none (by omega)]
      simp [Nat.ne_of_gt hgt]
  refine ⟨fun t pipe hpipe ho => isSome_of_modify hc ?_, fun d k' hk' => ?_,
    fun d k' hk' t => ?_⟩
  · rw [hs] at hpipe
    rcases List.mem_append.mp (List.mem_of_getElem? hpipe) with hold | hnew
    · obtain ⟨i, hi⟩ := List.mem_iff_getElem?.mp hold
      exact h.owned i pipe hi ho
    · rw [List.mem_singleton.mp hnew, hk]
      rfl
  · rw [component?_of_modify hc] at hk'
    split at hk'
    · obtain ⟨k₀, -, rfl⟩ := Option.map_eq_some_iff.mp hk'
      simp [Component.busy]
    · exact h.busy d k' hk'
  · rw [component?_of_modify hc] at hk'
    rw [hlive]
    split at hk'
    · rename_i hcd
      subst hcd
      obtain ⟨k₀, -, rfl⟩ := Option.map_eq_some_iff.mp hk'
      rw [← h.flight c k hk t, h.inFlight_of_idle hk hi]
      simp [Component.busy, eq_comm]
    · rename_i hcd
      rw [h.flight d k' hk' t]
      simp [Ne.symm hcd]

/-- `InStep` is preserved if a component is created. -/
theorem of_created (h : p.InStep) {k : Component} (hstate : k.state = .idle)
    (hflight : k.inFlight = none) (hc : q.components = p.components ++ [some k])
    (hs : q.pipelines = p.pipelines) : q.InStep := by
  have hlive : ∀ (d : ComponentId) (t : PipelineId), q.LiveAt d t ↔ p.LiveAt d t := by
    intro d t
    unfold LiveAt
    rw [hs]
  refine ⟨fun t pipe hpipe ho => ?_, fun d k' hk' => ?_, fun d k' hk' t => ?_⟩
  · rw [hs] at hpipe
    rw [component?_of_append hc]
    split
    · rfl
    · exact h.owned t pipe hpipe ho
  · rw [component?_of_append hc] at hk'
    split at hk'
    · cases hk'
      simp [hstate, hflight]
    · exact h.busy d k' hk'
  · rw [component?_of_append hc] at hk'
    rw [hlive]
    split at hk'
    · rename_i hd
      cases hk'
      rw [hflight]
      constructor
      · intro hf
        cases hf
      · rintro ⟨pipe, hpipe, hown, hl⟩
        -- no pipeline belongs to an index that is not used yet
        have hthere := h.owned t pipe hpipe (Pipeline.isLive_iff.mp hl).1
        obtain ⟨k₀, hk₀⟩ := Option.isSome_iff_exists.mp hthere
        rw [hown, hd] at hk₀
        exact absurd (lt_of_component? hk₀) (Nat.lt_irrefl _)
    · exact h.flight d k' hk' t

/-- `InStep` is preserved if a component without open pipelines is dropped. -/
theorem of_dropped (h : p.InStep) {c : ComponentId} (hheld : p.heldByPipeline c = false)
    (hc : q.components = p.components.set c none) (hs : q.pipelines = p.pipelines) :
    q.InStep := by
  have hlive : ∀ (d : ComponentId) (t : PipelineId), q.LiveAt d t ↔ p.LiveAt d t := by
    intro d t
    unfold LiveAt
    rw [hs]
  refine ⟨fun t pipe hpipe ho => ?_, fun d k' hk' => ?_, fun d k' hk' t => ?_⟩
  · rw [hs] at hpipe
    rw [component?_of_set_none hc]
    split
    · -- an open pipeline keeps its owner
      rename_i hco
      have hholds : p.heldByPipeline c = true :=
        List.any_eq_true.mpr ⟨pipe, List.mem_of_getElem? hpipe, by simp [ho, hco]⟩
      rw [hheld] at hholds
      cases hholds
    · exact h.owned t pipe hpipe ho
  · rw [component?_of_set_none hc] at hk'
    split at hk'
    · cases hk'
    · exact h.busy d k' hk'
  · rw [component?_of_set_none hc] at hk'
    rw [hlive]
    split at hk'
    · cases hk'
    · exact h.flight d k' hk' t

end InStep

@[simp] theorem isLive_abort (pipe : Pipeline) : pipe.abort.isLive = false := by
  simp [Pipeline.isLive, Pipeline.abort]

@[simp] theorem isLive_at_finished (pipe : Pipeline) : (pipe.at .finished).isLive = false :=
  rfl

/-- A live pipeline is live at every stage that is open. -/
private theorem isLive_at {pipe : Pipeline} (hlive : pipe.isLive = true) {stage : Stage}
    (hopen : (pipe.at stage).isOpen = true) : (pipe.at stage).isLive = pipe.isLive := by
  have ha : pipe.aborted = false := (Pipeline.isLive_iff.mp hlive).2
  rw [hlive]
  exact Pipeline.isLive_iff.mpr ⟨hopen, ha⟩

/-- `InStep` is preserved by every move. -/
theorem Move.inStep {kind : Kind} {p q : Page} (move : Move kind p q) (h : p.InStep) :
    q.InStep := by
  cases move with
  | tree e =>
    obtain ⟨_, _, _, rfl⟩ := e.kept.only
    exact ⟨h.owned, h.busy, h.flight⟩
  | mark | ask | clear | wake | advance | pollSleep | dropSleep | fault | mend | note | other =>
    exact ⟨h.owned, h.busy, h.flight⟩
  | create => exact h.of_created rfl rfl rfl rfl
  | bind | rebind | unbind | replace | adopt =>
    exact h.of_modify rfl rfl (fun _ => rfl) fun _ => rfl
  | drop hk hheld =>
    simp only [held, Bool.or_eq_false_iff] at hheld
    exact h.of_dropped hheld.1.2 rfl rfl
  | start hk hi hf hs payload => exact h.of_started hk hi (.accepted _ payload) rfl rfl rfl
  | refuse hk hi =>
    -- nothing ends here: an idle component has no `inFlight`
    have hnone := h.inFlight_of_idle hk hi
    refine h.of_ended hk rfl (fun _ => rfl) (fun _ => rfl) Pipeline.abort (fun _ => rfl)
      (fun _ => id) isLive_abort (fun _ => rfl) fun s hsome => ?_
    rw [hnone] at hsome
    cases hsome
  | disconnect hk =>
    refine h.of_ended hk rfl (fun _ => rfl) (fun _ => rfl) Pipeline.abort (fun _ => rfl)
      (fun _ => id) isLive_abort (fun hf => ?_) fun s hf => ?_
    · rw [hf]
      rfl
    · rw [hf]
      rfl
  | finish hpipe hown hlive hsleep hk =>
    -- the pipeline that ends is the `inFlight` of its owner
    have hflight := (h.flight _ _ hk _).mpr ⟨_, hpipe, hown, hlive⟩
    refine h.of_ended hk rfl (fun _ => rfl) (fun _ => rfl) (Pipeline.at .finished)
      (fun _ => rfl) (fun _ ho => by cases ho) isLive_at_finished (fun hf => ?_) fun s hf => ?_
    · rw [hflight] at hf
      cases hf
    · rw [hflight] at hf
      cases hf
      rfl
  | await hs reply payload =>
    obtain ⟨pipe, hpipe, -, hlive⟩ := hs.liveAt
    refine h.of_pipeline rfl rfl (fun _ => rfl) (fun pipe' hpipe' _ => ?_) fun pipe' hpipe' => ?_
    all_goals
      rw [hpipe] at hpipe'
      cases hpipe'
    · exact (Pipeline.isLive_iff.mp hlive).1
    · exact isLive_at hlive rfl
  | sleep hpipe hown hlive =>
    refine h.of_pipeline rfl rfl (fun _ => rfl) (fun pipe' hpipe' _ => ?_) fun pipe' hpipe' => ?_
    all_goals
      rw [hpipe] at hpipe'
      cases hpipe'
    · exact (Pipeline.isLive_iff.mp hlive).1
    · exact isLive_at hlive rfl
  | dropAborted hpipe ha =>
    refine h.of_pipeline rfl rfl (fun _ => rfl) (fun _ _ ho => by cases ho) fun pipe' hpipe' => ?_
    rw [hpipe] at hpipe'
    cases hpipe'
    simp [Pipeline.isLive, ha, Pipeline.at, Pipeline.isOpen]
  | finishGone hpipe hown hlive hsleep hk =>
    -- the owner is present, by `InStep`
    have hthere := h.owned _ _ hpipe (Pipeline.isLive_iff.mp hlive).1
    rw [hown, hk] at hthere
    cases hthere

/-! ## Visited pages -/

theorem InStep.course {S : Kind → Prop} {p q : Page} (h : p.InStep) (hpq : Course S p q) :
    q.InStep :=
  hpq.keeps (fun _ _ _ _ move hp => move.inStep hp) h

/-- `InStep` holds on every visited page. -/
theorem Visited.inStep {p : Page} (h : p.Visited) : p.InStep := by
  refine h.keeps ⟨fun s pipe hpipe => ?_, fun c k hk => ?_, fun c k hk => ?_⟩
    fun _ _ _ move => move.inStep
  · cases hpipe
  · cases hk
  · cases hk

end FormSwap.Page
