import FormSwap.Proofs.Waiting

/-!
# Every pipeline is woken

Most actions do not affect what pipelines are pending on. Those that settle a reply or advance the
clock wake the pipelines that were pending on it, and those on the user's sleeps and calls take
nothing from a pipeline. So on every reachable page a pipeline is pending on something that has not
happened, or is queued.

Main results:

- `act_surroundings`: which actions preserve the clock, the transport and the user's sleeps
- `advance_waits`, `settleDeferred_waits`: the pipelines that were pending are woken
- `Reachable.waits`: on every reachable page, no pipeline has missed its wake-up
-/

namespace FormSwap

/-- `a.isQuiet`: the action preserves the clock, the transport and the user's sleeps. -/
def Action.isQuiet : Action → Bool
  | .run | .advance _ | .newSleep _ | .pollSleep _ | .dropSleep _ | .reply _ | .defer | .deliver _ _
  | .dropDeferred _ | .pollCall _ => false
  | _ => true

namespace Page

/-! ## Quiet actions -/

section Quiet

variable {p q : Page} {fire : Firing}

theorem TreeEdit.surroundings_eq {watch : Bool} (e : TreeEdit p q watch) :
    q.surroundings = p.surroundings := by
  obtain ⟨_, _, _, rfl⟩ := e.kept.only
  rfl

theorem detach_surroundings (p : Page) (c : ComponentId) :
    (p.detach c).surroundings = p.surroundings := by
  refine Course.surroundings_eq ((detachWithin_course _ p c).mono fun k hk => ?_)
  cases k <;> trivial

theorem handleSubmit_surroundings (p : Page) (c : ComponentId) (e : SubmitEvent) :
    (p.handleSubmit c e).1.surroundings = p.surroundings := by
  refine Course.surroundings_eq ((handleSubmit_course p c e).mono fun k hk => ?_)
  cases k <;> trivial

theorem sweep_surroundings (p : Page) : p.sweep.surroundings = p.surroundings := by
  refine Course.surroundings_eq ((sweep_course p).mono fun k hk => ?_)
  cases k <;> trivial

/-- A fold preserves the surroundings if its steps do. -/
private theorem foldl_surroundings {α : Type} {step : Page × SubmitEvent → α → Page × SubmitEvent}
    (hstep : ∀ x a, (step x a).1.surroundings = x.1.surroundings) (x : Page × SubmitEvent)
    (l : List α) : (l.foldl step x).1.surroundings = x.1.surroundings := by
  induction l generalizing x with
  | nil => rfl
  | cons a rest ih => exact (ih (step x a)).trans (hstep x a)

theorem react_surroundings
    (hfire : ∀ p f submitter, (fire p f submitter).surroundings = p.surroundings)
    (pe : Page × SubmitEvent) (r : Reaction) :
    (react fire pe r).1.surroundings = pe.1.surroundings := by
  obtain ⟨p, e⟩ := pe
  cases r with
  | prevent => rfl
  | detach c => exact detach_surroundings p c
  | resubmit c => exact handleSubmit_surroundings p c e
  | dropHandle handle => exact sweep_surroundings _
  | submit f submitter => exact hfire p f submitter

theorem notify_surroundings
    (hfire : ∀ p f submitter, (fire p f submitter).surroundings = p.surroundings)
    (pe : Page × SubmitEvent) (l : Listener) :
    (notify fire pe l).1.surroundings = pe.1.surroundings := by
  obtain ⟨p, e⟩ := pe
  obtain ⟨id, role⟩ := l
  cases role with
  | component c =>
    simp only [notify]
    split
    · exact handleSubmit_surroundings p c e.prevent
    · rfl
  | observer label reactions => exact foldl_surroundings (react_surroundings hfire) (_, e) _

/-- `submitWithin` preserves the surroundings. -/
theorem submitWithin_surroundings (n : Nat) (p : Page) (f : FormId)
    (submitter : Option Submitter) :
    (submitWithin n p f submitter).1.surroundings = p.surroundings := by
  induction n generalizing p f submitter with
  | zero => exact foldl_surroundings (notify_surroundings fun _ _ _ => rfl) (p, _) _
  | succ n ih => exact foldl_surroundings (notify_surroundings ih) (p, _) _

/-- `edited` preserves the surroundings if the edit does. -/
private theorem edited_surroundings {result : Except DomError Page}
    (h : ∀ q, result = .ok q → q.surroundings = p.surroundings) :
    (p.edited result).1.surroundings = p.surroundings := by
  cases result with
  | ok q => exact h q rfl
  | error e => rfl

/-- A quiet action preserves the surroundings. -/
theorem act_surroundings {a : Action} (ha : p.offers a = true) (hquiet : a.isQuiet = true) :
    (p.act a).1.surroundings = p.surroundings := by
  cases a with
  | run | advance | newSleep | pollSleep | dropSleep | reply | defer | deliver | dropDeferred
  | pollCall => cases hquiet
  | newDocument => exact (TreeEdit.addDocument p).surroundings_eq
  | dropDocument d => exact (TreeEdit.dropDocument p d).surroundings_eq
  | append => rfl
  | remove d h => exact (TreeEdit.remove p d h).surroundings_eq
  | appendMarkup d markup => exact (TreeEdit.appendMarkup p d markup).surroundings_eq
  | dispatchDocument d n => exact (TreeEdit.dispatchDocument p d n).surroundings_eq
  | newHost attributes form markup rejecting =>
    refine (TreeEdit.newHost p attributes form markup rejecting fun f hf => ?_).surroundings_eq
    subst hf
    simpa [offers] using ha
  | setAttribute h name value =>
    refine edited_surroundings fun q hq => ?_
    unfold setAttribute at hq
    split at hq <;> cases hq
    rfl
  | removeAttribute h name =>
    refine edited_surroundings fun q hq => ?_
    unfold removeAttribute at hq
    split at hq <;> cases hq
    rfl
  | setInnerHtml h markup =>
    exact edited_surroundings fun q hq => (TreeEdit.setInnerHtml hq).surroundings_eq
  | setOuterHtml h markup =>
    simp only [act]
    cases hr : p.setOuterHtml h markup with
    | ok r => exact (TreeEdit.setOuterHtml hr).surroundings_eq
    | error e => rfl
  | dispatchHost h n =>
    simp only [act]
    cases hq : p.dispatchHost h n with
    | ok q => exact (TreeEdit.dispatchHost hq).surroundings_eq
    | error e => rfl
  | newForm data => exact (TreeEdit.addForm p data).surroundings_eq
  | addField f name value => exact (TreeEdit.addField p f name value).surroundings_eq
  | setField f name value => exact (TreeEdit.setField p f name value).surroundings_eq
  | submit f submitter depth => exact submitWithin_surroundings depth p f submitter
  | listen f label reactions =>
    simp only [act]
    cases hq : p.addListener f (.observer label reactions) with
    | ok q => exact (TreeEdit.observe hq).surroundings_eq
    | error e => rfl
  | unlisten l => exact (TreeEdit.unobserve p l (hasObserver_of_offers ha)).surroundings_eq
  | create h =>
    simp only [act]
    cases hq : p.create h with
    | error e => rfl
    | ok qc =>
      unfold Page.create at hq
      split at hq
      · cases hq
      rename_i resolved _
      obtain ⟨notices, hnote⟩ := noteResolved_eq p resolved
      rw [hnote] at hq
      cases hq
      rfl
  | attach c =>
    simp only [act]
    cases hq : p.attach c with
    | error e => rfl
    | ok q =>
      refine Course.surroundings_eq ((attach_course hq).mono ?_)
      rintro k (rfl | rfl) <;> trivial
  | detach c => exact detach_surroundings p c
  | handleSubmit c submitter => exact handleSubmit_surroundings p c { submitter }
  | createWith | takeHeard | retain | dropHandle | newCall => rfl
  | setFault f on => cases on <;> rfl

end Quiet

/-! ## Wake-ups -/

section Wake

variable {p : Page} {s : PipelineId} {queue : List PipelineId}

theorem wake_surroundings (p : Page) (s : PipelineId) :
    (p.wake s).surroundings = p.surroundings := by
  unfold wake
  split <;> rfl

theorem wake_needs (p : Page) (s : PipelineId) : SameNeeds p (p.wake s) := by
  unfold wake
  split
  · exact .refl p
  · exact .of_same rfl fun t ht => List.mem_append_left _ ht

/-- `wake` queues its pipeline. -/
theorem mem_wake (p : Page) (s : PipelineId) : s ∈ (p.wake s).woken := by
  unfold wake
  split
  · rename_i hs
    exact List.contains_iff_mem.mp hs
  · exact List.mem_append_right _ (List.mem_singleton.mpr rfl)

theorem Waits.wake (h : p.Waits queue) (s : PipelineId) : (p.wake s).Waits queue :=
  h.of_sameNeeds (wake_needs p s) (wake_surroundings p s)

theorem Waits.wakes (h : p.Waits queue) (l : List PipelineId) :
    (l.foldl Page.wake p).Waits queue := by
  induction l generalizing p with
  | nil => exact h
  | cons s rest ih => exact ih (h.wake s)

theorem mem_wakes {l : List PipelineId} (hs : s ∈ p.woken ++ l) :
    s ∈ (l.foldl Page.wake p).woken := by
  induction l generalizing p with
  | nil => simpa using hs
  | cons t rest ih =>
    apply ih
    rcases List.mem_append.mp hs with hold | hnew
    · exact List.mem_append_left _ ((wake_needs p t).woken s hold)
    · rcases List.mem_cons.mp hnew with rfl | hrest
      · exact List.mem_append_left _ (mem_wake p s)
      · exact List.mem_append_right _ hrest

theorem woken_of_wakes {l : List PipelineId} (hs : s ∈ (l.foldl wake p).woken) :
    s ∈ p.woken ∨ s ∈ l := by
  induction l generalizing p with
  | nil => exact .inl hs
  | cons t rest ih =>
    rcases ih hs with hwoken | hrest
    · unfold wake at hwoken
      split at hwoken
      · exact .inl hwoken
      · simp only [List.mem_append, List.mem_singleton] at hwoken
        exact hwoken.imp_right fun heq => by simp [heq]
    · exact .inr (List.mem_cons_of_mem _ hrest)

end Wake

/-! ## Actions on the clock -/

section OnClock

variable {p : Page} {queue : List PipelineId}

/-- `Waits` is preserved if the user's sleeps change and the clock tracks them. -/
theorem Waits.of_clock (h : p.Waits queue) {clock : ManualClock} {sleeps : List (Option Sleep)}
    (hnow : clock.now = p.clock.now)
    (hsleeps : clock.Tracks SleepOwner.tag ({ p with clock, sleeps } : Page).sleepOf) :
    ({ p with clock, sleeps } : Page).Waits queue where
  sleeps := hsleeps
  replies := h.replies
  sleeping s sleep ht hlive := by
    show sleep.id.isSome = true ∧ ¬ sleep.deadline ≤ clock.now ∨ s ∈ queue
    rw [hnow]
    exact h.sleeping s sleep ht hlive
  awaiting := h.awaiting

/-- `sleepOf` after a change of one of the user's sleeps. -/
private theorem sleepOf_set {n : Nat} {sleep : Sleep} (hn : p.sleepOf (.user n) = some sleep)
    (clock : ManualClock) (slot : Option Sleep) :
    ({ p with clock, sleeps := p.sleeps.set n slot } : Page).sleepOf (.user n) = slot ∧
      ∀ x, x ≠ .user n →
        ({ p with clock, sleeps := p.sleeps.set n slot } : Page).sleepOf x = p.sleepOf x := by
  have hlt : n < p.sleeps.length := by
    have hget := Option.join_eq_some_iff.mp hn
    exact (List.getElem?_eq_some_iff.mp hget).1
  refine ⟨?_, fun x hx => ?_⟩
  · simp [sleepOf, hlt]
  · cases x with
    | pipeline s => rfl
    | user m =>
      have hnm : n ≠ m := fun h => hx (by rw [h])
      simp only [sleepOf]
      rw [List.getElem?_set_ne hnm]

theorem pollUserSleep_waits (h : p.Waits queue) (n : Nat) : (p.pollUserSleep n).1.Waits queue := by
  unfold pollUserSleep
  cases hn : (p.sleeps[n]?).join with
  | none => exact h
  | some sleep =>
    -- the slot has what `left?` leaves of the sleep
    have hleft : ({ p with
        clock := (p.clock.poll sleep none).1
        sleeps := p.sleeps.set n (p.clock.left? sleep none) } : Page).Waits queue := by
      have hheld : p.sleepOf (.user n) = some sleep := hn
      obtain ⟨hself, hothers⟩ :=
        sleepOf_set hheld (p.clock.poll sleep none).1 (p.clock.left? sleep none)
      exact h.of_clock (ManualClock.now_poll _ _ _) (h.sleeps.poll (.inl hheld) hself hothers)
    unfold ManualClock.left? at hleft
    dsimp only
    split
    · rename_i hpoll
      rw [hpoll] at hleft
      exact hleft
    · rename_i hpoll
      rw [hpoll] at hleft
      exact hleft

theorem dropUserSleep_waits (h : p.Waits queue) (n : Nat) : (p.dropUserSleep n).1.Waits queue := by
  unfold dropUserSleep
  cases hn : (p.sleeps[n]?).join with
  | none => exact h
  | some sleep =>
    have hheld : p.sleepOf (.user n) = some sleep := hn
    obtain ⟨hself, hothers⟩ := sleepOf_set hheld (p.clock.release sleep) none
    exact h.of_clock (ManualClock.now_release _ _) (h.sleeps.release hheld hself hothers)

/-- `newSleep` preserves `Waits`. -/
theorem newSleep_waits (h : p.Waits queue) (length : Duration) :
    ({ p with sleeps := p.sleeps ++ [some (p.clock.sleep length)] } : Page).Waits queue := by
  refine h.of_clock rfl ?_
  refine h.sleeps.of_unregistered (x := .user p.sleeps.length) (fun x hx => ?_)
    (fun sleep hsleep => ?_) fun sleep hsleep => ?_
  · cases x with
    | pipeline s => rfl
    | user n =>
      have hne : n ≠ p.sleeps.length := fun h => hx (by rw [h])
      simp only [sleepOf]
      rcases Nat.lt_or_gt_of_ne hne with hlt | hgt
      · rw [List.getElem?_append_left hlt]
      · rw [List.getElem?_eq_none (by simp; omega), List.getElem?_eq_none (by omega)]
  · simp [sleepOf] at hsleep
  · simp only [sleepOf, List.getElem?_concat_length, Option.join_some] at hsleep
    cases hsleep
    rfl

/-- `advance` preserves `Waits`: it wakes the pipelines whose sleeps are over. -/
theorem advance_waits (h : p.Waits p.woken) (span : Duration) :
    (p.advance span).Waits (p.advance span).woken := by
  have hlater : ({ p with clock := (p.clock.advance span).1 } : Page).Waits
      (p.woken ++ (p.clock.advance span).2.filterMap (·.waker)) := by
    refine ⟨h.sleeps.advance span, h.replies, fun s sleep hsleep hlive => ?_, fun s d hd hlive =>
      (h.awaiting s d hd hlive).imp_right fun hs => List.mem_append_left _ hs⟩
    -- a pending sleep is still pending, or is among the due waiters
    rcases h.sleeping s sleep hsleep hlive with ⟨hid, hbefore⟩ | hqueued
    · by_cases hafter : sleep.deadline ≤ p.clock.now + span
      · obtain ⟨id, ht⟩ := Option.isSome_iff_exists.mp hid
        have hheld : p.sleepOf (.pipeline s) = some sleep := hsleep
        have hdue := h.sleeps.mem_due hheld ht hbefore hafter
        exact .inr (List.mem_append_right _ (List.mem_filterMap.mpr ⟨_, hdue, rfl⟩))
      · exact .inl ⟨hid, hafter⟩
    · exact .inr (List.mem_append_left _ hqueued)
  exact (hlater.wakes _).mono fun s hs => mem_wakes hs

end OnClock

/-! ## Actions on the transport -/

section OnTransport

variable {p : Page} {queue : List PipelineId} {d : DeferredId}

/-- `Waits` is preserved if the transport changes and pending replies stay pending. -/
theorem Waits.of_transport (h : p.Waits queue) {transport : MockTransport}
    (hreplies : transport.Tracks p.replyOf)
    (hpending : ∀ d, p.transport.isPending d = true → transport.isPending d = true) :
    ({ p with transport } : Page).Waits queue where
  sleeps := h.sleeps
  replies := hreplies
  sleeping := h.sleeping
  awaiting s d ht hlive := (h.awaiting s d ht hlive).imp_left (hpending d)

theorem pollUserCall_waits (h : p.Waits queue) (k : Nat) : (p.pollUserCall k).1.Waits queue := by
  unfold pollUserCall
  split
  · exact h
  · rename_i call _
    have hask := h.ask call
    split
    · rename_i hpoll
      rw [hpoll] at hask
      exact hask.of_sameNeeds (.of_same rfl fun _ => id) rfl
    · rename_i hpoll
      rw [hpoll] at hask
      exact hask.of_sameNeeds (.of_same rfl fun _ => id) rfl

theorem awaits_iff {pipe : Pipeline} : awaits d pipe = true ↔ pipe.stage.reply? = some d := by
  obtain ⟨owner, stage, aborted⟩ := pipe
  cases stage with
  | awaiting call payload => cases call <;> simp [awaits, Stage.reply?]
  | accepted | settling | finished => simp [awaits, Stage.reply?]

/-- `findIdx?` finds the pipeline that awaits a reply. -/
theorem findIdx?_awaits (h : p.transport.Tracks p.replyOf) {s : PipelineId}
    (hs : p.replyOf s = some d) : p.pipelines.findIdx? (awaits d) = some s := by
  obtain ⟨pipe, hpipe, hstage⟩ := Option.bind_eq_some_iff.mp hs
  cases hfind : p.pipelines.findIdx? (awaits d) with
  | none =>
    have hno := List.findIdx?_eq_none_iff.mp hfind pipe (List.mem_of_getElem? hpipe)
    rw [awaits_iff.mpr hstage] at hno
    cases hno
  | some t =>
    obtain ⟨hlt, hawaits, -⟩ := List.findIdx?_eq_some_iff_getElem.mp hfind
    have ht : p.replyOf t = some d :=
      Option.bind_eq_some_iff.mpr ⟨_, List.getElem?_eq_getElem hlt, awaits_iff.mp hawaits⟩
    rw [h.distinct s t d hs ht]

/-- `settleDeferred` preserves `Waits`: it wakes the pipeline that awaits the reply. -/
theorem settleDeferred_waits (h : p.Waits p.woken) (d : DeferredId) (status : Deferred) :
    (p.settleDeferred d status).Waits (p.settleDeferred d status).woken := by
  have hfound : ∀ s, p.replyOf s = some d → p.pipelines.findIdx? (awaits d) = some s :=
    fun s hs => findIdx?_awaits h.replies hs
  -- it suffices to extend the queue by the pipeline that is found
  have hsettled {queue : List PipelineId} (hqueue : ∀ s ∈ p.woken, s ∈ queue)
      (hd : ∀ s, p.replyOf s = some d → s ∈ queue) :
      ({ p with transport := p.transport.settle d status } : Page).Waits queue := by
    refine ⟨h.sleeps, h.replies.settle d status, fun s sleep hsleep hlive =>
      (h.sleeping s sleep hsleep hlive).imp_right (hqueue s), fun s e he hlive => ?_⟩
    by_cases hed : e = d
    · subst hed
      exact .inr (hd s he)
    · rw [MockTransport.isPending_settle_of_ne status hed]
      exact (h.awaiting s e he hlive).imp_right (hqueue s)
  unfold settleDeferred
  dsimp only
  split
  · rename_i t hfind
    refine (hsettled (fun s hs => ?_) fun s hs => ?_).wake t
    · exact (wake_needs _ t).woken s hs
    · rw [hfound s hs] at hfind
      cases hfind
      exact mem_wake _ _
  · rename_i hfind
    refine hsettled (fun _ => id) fun s hs => ?_
    rw [hfound s hs] at hfind
    cases hfind

end OnTransport

/-! ## Reachable pages -/

section All

variable {p : Page} {a : Action}

theorem keepsStages_of_allows {k : Kind} (h : a.Allows p k) (ha : a ≠ .run) : KeepsStages k := by
  cases k with
  | progress | finish | dropAborted | clear => exact absurd h ha
  | _ => trivial

/-- Every action except `run` satisfies `SameNeeds`. -/
theorem act_needs (ha : p.offers a = true) (hrun : a ≠ .run) : SameNeeds p (p.act a).1 :=
  ((act_course ha).mono fun _ hk => keepsStages_of_allows hk hrun).sameNeeds

/-- `act` preserves `Waits`. -/
theorem act_waits (h : p.Waits p.woken) (ha : p.offers a = true) :
    (p.act a).1.Waits (p.act a).1.woken := by
  by_cases hquiet : a.isQuiet = true
  · have hrun : a ≠ .run := by
      rintro rfl
      cases hquiet
    have hneeds := act_needs ha hrun
    exact (h.of_sameNeeds hneeds (act_surroundings ha hquiet)).mono hneeds.woken
  · cases a with
    | run => exact (run_waits h).mono fun s hs => by cases hs
    | advance span => exact advance_waits h span
    | deliver d | dropDeferred d => exact settleDeferred_waits h d _
    | newSleep length => exact newSleep_waits h length
    | pollSleep n =>
      exact (pollUserSleep_waits h n).mono (act_needs ha (by rintro ⟨⟩)).woken
    | dropSleep n =>
      exact (dropUserSleep_waits h n).mono (act_needs ha (by rintro ⟨⟩)).woken
    | pollCall k =>
      exact (pollUserCall_waits h k).mono (act_needs ha (by rintro ⟨⟩)).woken
    | reply outcome => exact h.of_transport (h.replies.enqueue_ready outcome) fun _ => id
    | defer => exact h.of_transport h.replies.defer fun _ => MockTransport.isPending_defer
    | _ => exact absurd rfl hquiet

theorem sweep_needs (p : Page) : SameNeeds p p.sweep := by
  refine Course.sameNeeds ((sweep_course p).mono fun k hk => ?_)
  cases k <;> trivial

theorem sweep_waits {queue : List PipelineId} (h : p.Waits queue) : p.sweep.Waits queue :=
  h.of_sameNeeds (sweep_needs p) (sweep_surroundings p)

theorem perform_waits (h : p.Waits p.woken) (a : Action) :
    (p.perform a).1.Waits (p.perform a).1.woken := by
  unfold perform
  split
  · rename_i ha
    exact (sweep_waits (act_waits h ha)).mono (sweep_needs _).woken
  · exact h

/-- `Waits` holds on every reachable page. -/
theorem Reachable.waits (h : p.Reachable) : p.Waits p.woken :=
  h.keeps (I := fun q => q.Waits q.woken) waits_empty fun _ a _ hq => perform_waits hq a

/-- After a run, `Waits` holds with an empty queue. -/
theorem Reachable.run_waits (h : p.Reachable) : (p.perform .run).1.Waits [] :=
  sweep_waits (Page.run_waits h.waits)

end All

end Page

end FormSwap
