import FormSwap.Proofs.Exchange
import FormSwap.Proofs.Replies
import FormSwap.Proofs.Sleeps

/-!
# Pending pipelines

A pipeline that was polled is pending on its reply or on its sleep. `Page.Waits` states that it will
be woken: the clock and the transport track what it is pending on, and a pipeline whose reply was
settled or whose sleep is over is queued. A poll removes its pipeline from the queue and leaves it
pending or ended. Everything else keeps the queue complete.

Main results:

- `poll_waits`: a poll of a queued pipeline leaves it pending, or ends it
- `act_waits`: every action keeps the queue complete
- `perform_run_waits`: after a run, every open pipeline is pending
-/

namespace FormSwap

/-- `stage.sleep?` is the sleep of a pipeline at a stage. -/
def Stage.sleep? : Stage → Option Sleep
  | .settling sleep => some sleep
  | _ => none

/-- `stage.reply?` is the deferred reply that a pipeline at a stage awaits. -/
def Stage.reply? : Stage → Option DeferredId
  | .awaiting (.awaiting d) _ => some d
  | _ => none

theorem Stage.sleep?_of_isExchange {stage : Stage} (h : stage.isExchange = true) :
    stage.sleep? = none := by
  cases stage <;> first | rfl | cases h

/-- `SleepOwner` is the owner of a sleep: a pipeline, or the user. -/
inductive SleepOwner where
  | pipeline (s : PipelineId)
  | user (n : Nat)

/-- `x.tag` is the pipeline to wake. -/
def SleepOwner.tag : SleepOwner → Option Nat
  | .pipeline s => some s
  | .user _ => none

namespace Page

/-- `p.sleepOf x` is the sleep of an owner. -/
def sleepOf (p : Page) : SleepOwner → Option Sleep
  | .pipeline s => (p.pipelines[s]?).bind (·.stage.sleep?)
  | .user n => (p.sleeps[n]?).join

/-- `p.replyOf s` is the deferred reply that `s` awaits. -/
def replyOf (p : Page) (s : PipelineId) : Option DeferredId :=
  (p.pipelines[s]?).bind (·.stage.reply?)

/-- `p.isAborted s`: the pipeline `s` was aborted. -/
def isAborted (p : Page) (s : PipelineId) : Bool :=
  (p.pipelines[s]?).any (·.aborted)

/-- `p.Waits queue`: the clock tracks all sleeps, the transport tracks all awaited replies, and a
pipeline that is not aborted has a pending sleep or reply, if it has one at all, or is in
`queue`. -/
structure Waits (p : Page) (queue : List PipelineId) : Prop where
  sleeps : p.clock.Tracks SleepOwner.tag p.sleepOf
  replies : p.transport.Tracks p.replyOf
  sleeping : ∀ s sleep, p.sleepOf (.pipeline s) = some sleep → p.isAborted s = false →
    sleep.id.isSome = true ∧ ¬ sleep.deadline ≤ p.clock.now ∨ s ∈ queue
  awaiting : ∀ s d, p.replyOf s = some d → p.isAborted s = false →
    p.transport.isPending d = true ∨ s ∈ queue

section Basic

variable {p q : Page} {s : PipelineId} {queue queue' : List PipelineId}

theorem Waits.mono (h : p.Waits queue) (hq : ∀ s ∈ queue, s ∈ queue') : p.Waits queue' where
  sleeps := h.sleeps
  replies := h.replies
  sleeping s sleep hsleep hlive := (h.sleeping s sleep hsleep hlive).imp_right (hq s)
  awaiting s d hd hlive := (h.awaiting s d hd hlive).imp_right (hq s)

/-- `Waits` holds on the empty page. -/
theorem waits_empty : ({} : Page).Waits [] where
  sleeps := .of_none rfl fun x => by cases x <;> rfl
  replies := .of_none rfl fun _ => rfl
  sleeping s sleep hsleep := by cases hsleep
  awaiting s d hd := by cases hd

/-- A function of the stages after a change of one pipeline. -/
private theorem view_of_modify {α : Type} (view : Stage → Option α) {pipe : Pipeline}
    {stage : Stage} (hpipe : p.pipelines[s]? = some pipe)
    (hq : q.pipelines = p.pipelines.modify s (Pipeline.at stage)) (t : PipelineId) :
    ((q.pipelines[t]?).bind fun pipe => view pipe.stage) =
      if t = s then view stage else (p.pipelines[t]?).bind fun pipe => view pipe.stage := by
  rw [hq]
  by_cases hts : t = s
  · subst hts
    rw [if_pos rfl, List.getElem?_modify_eq, hpipe]
    rfl
  · rw [if_neg hts, List.getElem?_modify_ne _ _ (Ne.symm hts)]

theorem sleepOf_of_modify {pipe : Pipeline} {stage : Stage} (hpipe : p.pipelines[s]? = some pipe)
    (hq : q.pipelines = p.pipelines.modify s (Pipeline.at stage)) (t : PipelineId) :
    q.sleepOf (.pipeline t) = if t = s then stage.sleep? else p.sleepOf (.pipeline t) :=
  view_of_modify Stage.sleep? hpipe hq t

theorem replyOf_of_modify {pipe : Pipeline} {stage : Stage} (hpipe : p.pipelines[s]? = some pipe)
    (hq : q.pipelines = p.pipelines.modify s (Pipeline.at stage)) (t : PipelineId) :
    q.replyOf t = if t = s then stage.reply? else p.replyOf t :=
  view_of_modify Stage.reply? hpipe hq t

theorem isAborted_of_modify {stage : Stage}
    (hq : q.pipelines = p.pipelines.modify s (Pipeline.at stage)) (t : PipelineId) :
    q.isAborted t = p.isAborted t := by
  simp only [isAborted, hq, List.getElem?_modify]
  cases p.pipelines[t]? with
  | none => rfl
  | some pipe =>
    by_cases hst : s = t
    · simp [hst, Pipeline.at]
    · simp [hst]

end Basic

/-! ## Moves that preserve `Waits` -/

/-- `p.surroundings` is what pipelines are pending on: the clock, the transport and the user's
sleeps. -/
def surroundings (p : Page) : ManualClock × MockTransport × List (Option Sleep) :=
  (p.clock, p.transport, p.sleeps)

/-- `Still` has the kinds of moves that preserve the surroundings. -/
def Still : Kind → Prop
  | .progress _ | .finish _ | .dropAborted _ | .clock | .other => False
  | _ => True

/-- `KeepsStages` has the kinds of moves that preserve every pipeline's stage and the queue. -/
def KeepsStages : Kind → Prop
  | .progress _ | .finish _ | .dropAborted _ | .clear => False
  | _ => True

/-- `SameNeeds p q`: every pipeline has the same sleep and awaits the same reply on `p` and `q`,
aborted ones stay aborted, and woken ones stay woken. -/
structure SameNeeds (p q : Page) : Prop where
  sleep : ∀ s, q.sleepOf (.pipeline s) = p.sleepOf (.pipeline s)
  reply : ∀ s, q.replyOf s = p.replyOf s
  abort : ∀ s, p.isAborted s = true → q.isAborted s = true
  woken : ∀ s ∈ p.woken, s ∈ q.woken

section Frame

variable {p q r : Page} {queue : List PipelineId}

theorem Course.surroundings_eq (h : Course Still p q) : q.surroundings = p.surroundings := by
  refine h.keeps (I := fun r => r.surroundings = p.surroundings) (fun k r r' hk move ih => ?_) rfl
  cases move with
  | tree e =>
    obtain ⟨_, _, _, rfl⟩ := e.kept.only
    exact ih
  | mark | create | bind | unbind | rebind | replace | adopt | disconnect | drop | start | refuse
  | clear | wake | fault | note => exact ih
  | ask | await | sleep | finish | finishGone | dropAborted | advance | pollSleep | dropSleep | mend
  | other => exact hk.elim

theorem SwapScope.still {n m : Nat} {c : ComponentId} {k : Kind} (h : SwapScope n m c k) :
    Still k := by
  cases k <;> trivial

theorem SwapScope.keepsStages {n m : Nat} {c : ComponentId} {k : Kind} (h : SwapScope n m c k) :
    KeepsStages k := by
  cases k <;> trivial

namespace SameNeeds

theorem refl (p : Page) : SameNeeds p p :=
  ⟨fun _ => rfl, fun _ => rfl, fun _ => id, fun _ => id⟩

theorem trans (h : SameNeeds p q) (h' : SameNeeds q r) : SameNeeds p r where
  sleep s := (h'.sleep s).trans (h.sleep s)
  reply s := (h'.reply s).trans (h.reply s)
  abort s hs := h'.abort s (h.abort s hs)
  woken s hs := h'.woken s (h.woken s hs)

/-- A pipeline that is not aborted was not aborted before. -/
theorem live (h : SameNeeds p q) {s : PipelineId} (hs : q.isAborted s = false) :
    p.isAborted s = false := by
  refine Bool.eq_false_iff.mpr fun hcalled => ?_
  rw [h.abort s hcalled] at hs
  cases hs

/-- `SameNeeds` holds if the pipelines are the same. -/
theorem of_same (hs : q.pipelines = p.pipelines) (hw : ∀ s ∈ p.woken, s ∈ q.woken) :
    SameNeeds p q := by
  refine ⟨fun s => ?_, fun s => ?_, fun s => ?_, hw⟩
  · simp only [sleepOf, hs]
  · simp only [replyOf, hs]
  · simp only [isAborted, hs]
    exact id

/-- `SameNeeds` holds if a pipeline is aborted. -/
theorem of_abort {t : PipelineId}
    (hs : q.pipelines = p.pipelines.modify t Pipeline.abort)
    (hw : ∀ s ∈ p.woken, s ∈ q.woken) : SameNeeds p q := by
  have hget (s : PipelineId) : q.pipelines[s]? =
      (p.pipelines[s]?).map fun pipe => if t = s then pipe.abort else pipe := by
    rw [hs, List.getElem?_modify]
    rfl
  -- `abort` preserves the stage
  have hstage (s : PipelineId) (pipe : Pipeline) :
      (if t = s then pipe.abort else pipe).stage = pipe.stage := by
    split <;> rfl
  refine ⟨fun s => ?_, fun s => ?_, fun s hcalled => ?_, hw⟩
  · simp only [sleepOf, hget, Option.bind_map, Function.comp_def, hstage]
  · simp only [replyOf, hget, Option.bind_map, Function.comp_def, hstage]
  · simp only [isAborted, hget, Option.any_map] at hcalled ⊢
    cases hpipe : p.pipelines[s]? with
    | none => simp [hpipe] at hcalled
    | some pipe => by_cases hts : t = s <;> simp_all [Pipeline.abort]

/-- `SameNeeds` holds if a pipeline is added. -/
theorem of_new {pipe : Pipeline} (hs : q.pipelines = p.pipelines ++ [pipe])
    (hstage : pipe.stage.rank = 0) (hw : ∀ s ∈ p.woken, s ∈ q.woken) : SameNeeds p q := by
  have hsleep : pipe.stage.sleep? = none ∧ pipe.stage.reply? = none := by
    cases hpipe : pipe.stage with
    | accepted => exact ⟨rfl, rfl⟩
    | awaiting | settling | finished =>
      rw [hpipe] at hstage
      cases hstage
  -- the list grows at its end only
  have hget (s : PipelineId) : q.pipelines[s]? = p.pipelines[s]? ∨
      p.pipelines[s]? = none ∧ q.pipelines[s]? = some pipe ∨
      p.pipelines[s]? = none ∧ q.pipelines[s]? = none := by
    rw [hs]
    rcases Nat.lt_trichotomy s p.pipelines.length with hlt | rfl | hgt
    · exact .inl (List.getElem?_append_left hlt)
    · exact .inr (.inl ⟨by simp, by simp⟩)
    · exact .inr (.inr ⟨List.getElem?_eq_none (Nat.le_of_lt hgt),
        List.getElem?_eq_none (by simpa using Nat.succ_le_of_lt hgt)⟩)
  refine ⟨fun s => ?_, fun s => ?_, fun s hcalled => ?_, hw⟩
  · rcases hget s with hsame | ⟨hold, hnew⟩ | ⟨hold, hnew⟩
    · simp only [sleepOf, hsame]
    · simp [sleepOf, hold, hnew, hsleep.1]
    · simp [sleepOf, hold, hnew]
  · rcases hget s with hsame | ⟨hold, hnew⟩ | ⟨hold, hnew⟩
    · simp only [replyOf, hsame]
    · simp [replyOf, hold, hnew, hsleep.2]
    · simp [replyOf, hold, hnew]
  · rcases hget s with hsame | ⟨hold, -⟩ | ⟨hold, -⟩
    · simpa only [isAborted, hsame] using hcalled
    · simp [isAborted, hold] at hcalled
    · simp [isAborted, hold] at hcalled

end SameNeeds

theorem Move.sameNeeds {kind : Kind} (move : Move kind p q) (hkind : KeepsStages kind) :
    SameNeeds p q := by
  cases move with
  | tree e =>
    obtain ⟨_, _, _, rfl⟩ := e.kept.only
    exact .of_same rfl fun _ => id
  | mark | create | bind | unbind | rebind | replace | adopt | drop | refuse | advance | pollSleep
  | dropSleep | fault | mend | note | other => exact .of_same rfl fun _ => id
  | wake _ _ hw => exact .of_same rfl hw
  | @disconnect _ _ k =>
    have hwoken : ∀ s ∈ p.woken, s ∈ p.wokenAborting k.inFlight :=
      fun s hs => mem_wokenAborting hs k.inFlight
    cases hf : k.inFlight with
    | none => exact .of_same rfl fun _ => id
    | some t => exact .of_abort rfl (hf ▸ hwoken)
  | start => exact .of_new rfl rfl fun _ => id
  | ask | await | sleep | finish | finishGone | dropAborted | clear => exact hkind.elim

theorem Course.sameNeeds (h : Course KeepsStages p q) : SameNeeds p q :=
  h.keeps (I := SameNeeds p) (fun _ _ _ hk move ih => ih.trans (move.sameNeeds hk)) (.refl p)

/-- `Waits` is preserved by `SameNeeds` if the surroundings are the same. -/
theorem Waits.of_sameNeeds (h : p.Waits queue) (hn : SameNeeds p q)
    (hs : q.surroundings = p.surroundings) : q.Waits queue := by
  obtain ⟨hclock, hrest⟩ := Prod.mk.inj hs
  obtain ⟨htransport, hsleeps⟩ := Prod.mk.inj hrest
  have hsleep : q.sleepOf = p.sleepOf := by
    funext x
    cases x with
    | pipeline s => exact hn.sleep s
    | user n => simp only [sleepOf, hsleeps]
  have hreply : q.replyOf = p.replyOf := funext hn.reply
  refine ⟨?_, ?_, fun s sleep ht hs => ?_, fun s d ht hs => ?_⟩
  · rw [hclock, hsleep]
    exact h.sleeps
  · rw [htransport, hreply]
    exact h.replies
  · rw [hclock]
    exact h.sleeping s sleep (hsleep ▸ ht) (hn.live hs)
  · rw [htransport]
    exact h.awaiting s d (hreply ▸ ht) (hn.live hs)

end Frame

/-! ## Polls -/

section Polls

variable {p q : Page} {s : PipelineId} {pipe : Pipeline} {stage : Stage}
  {queue : List PipelineId}

/-- `Waits` after a pipeline leaves the queue, pending or ended. -/
theorem Waits.step (stage : Stage) (h : p.Waits (s :: queue))
    (hpipe : p.pipelines[s]? = some pipe)
    (hq : q.pipelines = p.pipelines.modify s (Pipeline.at stage))
    (hnow : q.clock.now = p.clock.now)
    (htransport : ∀ d, q.transport.isPending d = p.transport.isPending d)
    (hsleeps : q.clock.Tracks SleepOwner.tag q.sleepOf) (hreplies : q.transport.Tracks q.replyOf)
    (hsleep : ∀ sleep, stage.sleep? = some sleep →
      sleep.id.isSome = true ∧ ¬ sleep.deadline ≤ p.clock.now)
    (hreply : ∀ d, stage.reply? = some d → p.transport.isPending d = true) : q.Waits queue := by
  refine ⟨hsleeps, hreplies, fun t sleep ht hlive => ?_, fun t d ht hlive => ?_⟩
  · rw [sleepOf_of_modify hpipe hq] at ht
    rw [isAborted_of_modify hq] at hlive
    rw [hnow]
    split at ht
    · exact .inl (hsleep sleep ht)
    · rename_i hts
      exact (h.sleeping t sleep ht hlive).imp_right (List.mem_of_ne_of_mem hts)
  · rw [replyOf_of_modify hpipe hq] at ht
    rw [isAborted_of_modify hq] at hlive
    rw [htransport]
    split at ht
    · exact .inl (hreply d ht)
    · rename_i hts
      exact (h.awaiting t d ht hlive).imp_right (List.mem_of_ne_of_mem hts)

/-- `Waits` does not need a pipeline in the queue that is pending on nothing. -/
theorem Waits.skip (h : p.Waits (s :: queue)) (hsleep : p.sleepOf (.pipeline s) = none)
    (hreply : p.replyOf s = none) : p.Waits queue := by
  refine ⟨h.sleeps, h.replies, fun t sleep ht hlive => ?_, fun t d ht hlive => ?_⟩
  · have hts : t ≠ s := by
      rintro rfl
      rw [hsleep] at ht
      cases ht
    exact (h.sleeping t sleep ht hlive).imp_right (List.mem_of_ne_of_mem hts)
  · have hts : t ≠ s := by
      rintro rfl
      rw [hreply] at ht
      cases ht
    exact (h.awaiting t d ht hlive).imp_right (List.mem_of_ne_of_mem hts)

/-- `sleepOf` of other owners after a change of stage. -/
theorem sleepOf_of_ne (hpipe : p.pipelines[s]? = some pipe)
    (hq : q.pipelines = p.pipelines.modify s (Pipeline.at stage)) (hsleeps : q.sleeps = p.sleeps)
    (x : SleepOwner) (hx : x ≠ .pipeline s) : q.sleepOf x = p.sleepOf x := by
  cases x with
  | pipeline t =>
    rw [sleepOf_of_modify hpipe hq, if_neg fun hts => hx (by rw [hts])]
  | user n =>
    simp only [sleepOf]
    rw [hsleeps]

/-- `Tracks` is preserved if a pipeline awaits no reply any more. -/
theorem Waits.replies_of_none (h : p.Waits queue) (hpipe : p.pipelines[s]? = some pipe)
    (hq : q.pipelines = p.pipelines.modify s (Pipeline.at stage))
    (hreply : stage.reply? = none) : p.transport.Tracks q.replyOf := by
  refine h.replies.of_fewer fun t d ht => ?_
  rw [replyOf_of_modify hpipe hq] at ht
  split at ht
  · rw [hreply] at ht
    cases ht
  · exact ht

/-- `settle` as a change of stage. -/
theorem settle_eq (p : Page) (s : PipelineId) (c : ComponentId) (sleep : Sleep) :
    ∃ stage, (p.settle s c sleep).pipelines = p.pipelines.modify s (Pipeline.at stage) ∧
      stage.sleep? = p.clock.left? sleep (some s) ∧ stage.reply? = none ∧
      (p.settle s c sleep).clock = (p.clock.poll sleep (some s)).1 ∧
      (p.settle s c sleep).transport = p.transport ∧ (p.settle s c sleep).sleeps = p.sleeps := by
  unfold settle
  split
  · rename_i clock _ hpoll
    have hover : p.clock.left? sleep (some s) = none := by simp [ManualClock.left?, hpoll]
    refine ⟨.finished, ?_⟩
    cases hk : p.component? c with
    | none =>
      rw [leaveSubmitting_of_none (p := { p with clock }) hk, hpoll]
      exact ⟨rfl, hover.symm, rfl, rfl, rfl, rfl⟩
    | some k =>
      obtain ⟨notices, hleave⟩ := leaveSubmitting_eq (p := { p with clock }) hk
      rw [hleave, hpoll]
      exact ⟨rfl, hover.symm, rfl, rfl, rfl, rfl⟩
  · rename_i clock sleep' hpoll
    have hwaits : p.clock.left? sleep (some s) = some sleep' := by simp [ManualClock.left?, hpoll]
    rw [hpoll]
    exact ⟨.settling sleep', rfl, hwaits.symm, rfl, rfl, rfl, rfl⟩

/-- `settle` preserves `Waits`. -/
theorem settle_waits (h : p.Waits (s :: queue)) (hpipe : p.pipelines[s]? = some pipe)
    {sleep : Sleep}
    (hsleep : pipe.stage = .settling sleep ∨ pipe.stage.isExchange = true ∧ sleep.id = none)
    (c : ComponentId) : (p.settle s c sleep).Waits queue := by
  obtain ⟨stage, hq, hstage, hreply, hclock, htransport, hsleeps⟩ := settle_eq p s c sleep
  -- the sleep is that of the pipeline, or the pipeline has none and this one is new
  have hheld : p.sleepOf (.pipeline s) = some sleep ∨
      p.sleepOf (.pipeline s) = none ∧ sleep.id = none := by
    simp only [sleepOf, hpipe, Option.bind_some]
    rcases hsleep with hsettling | ⟨hexchange, ht⟩
    · exact .inl (by rw [hsettling]; rfl)
    · exact .inr ⟨Stage.sleep?_of_isExchange hexchange, ht⟩
  refine h.step stage hpipe hq ?_ ?_ ?_ ?_ ?_ ?_
  · rw [hclock, ManualClock.now_poll]
  · exact fun d => by rw [htransport]
  · rw [hclock]
    refine h.sleeps.poll (x := .pipeline s) hheld ?_ (sleepOf_of_ne hpipe hq hsleeps)
    rw [sleepOf_of_modify hpipe hq, if_pos rfl, hstage]
    rfl
  · rw [htransport]
    exact h.replies_of_none hpipe hq hreply
  · intro sleep' hsleep'
    rw [hstage] at hsleep'
    exact ManualClock.waits_of_left? hsleep'
  · intro d hd
    rw [hreply] at hd
    cases hd

/-- `poll` of a call preserves `Waits`. -/
theorem Waits.ask (h : p.Waits queue) (call : Call) :
    ({ p with transport := (p.transport.poll call).1 } : Page).Waits queue where
  sleeps := h.sleeps
  replies := h.replies.poll_other call
  sleeping := h.sleeping
  awaiting t d ht hlive := by
    rw [MockTransport.isPending_poll]
    exact h.awaiting t d ht hlive

/-- `conclude` preserves `Waits`. -/
theorem conclude_waits (h : p.Waits (s :: queue)) (hpipe : p.pipelines[s]? = some pipe)
    (hstage : pipe.stage.isExchange = true) (c : ComponentId) (result : Except SubmitError Nat) :
    (p.conclude s c result).Waits queue :=
  settle_waits (p := p.note (resultNotice result))
    ⟨h.sleeps, h.replies, h.sleeping, h.awaiting⟩ hpipe (.inr ⟨hstage, rfl⟩) c

/-- `receive` and `resume` preserve `Waits`. -/
theorem receive_waits (h : p.Waits (s :: queue)) (hpipe : p.pipelines[s]? = some pipe)
    (hlive : pipe.aborted = false) (hstage : pipe.stage.isExchange = true) (payload : Payload)
    (outcome : Outcome) :
    ((p.receive pipe.owner payload outcome).resume s pipe.owner).Waits queue := by
  have hs : p.Exchanging pipe.owner s := ⟨pipe, hpipe, rfl, hlive, hstage⟩
  unfold receive
  split
  · exact conclude_waits h hpipe hstage _ _
  · split
    · exact conclude_waits h hpipe hstage _ _
    · split
      · exact conclude_waits h hpipe hstage _ _
      · rename_i q hq
        -- a swap preserves the surroundings
        have hswap := applyResponse_course hs hq
        have hneeds := (hswap.mono fun _ hk => hk.keepsStages).sameNeeds
        have hsame := (hswap.mono fun _ hk => hk.still).surroundings_eq
        exact conclude_waits (h.of_sameNeeds hneeds hsame) (hswap.pipelines_eq ▸ hpipe) hstage _ _

/-- `pollCall` and `resume` preserve `Waits`. -/
theorem pollCall_waits (h : p.Waits (s :: queue)) (hpipe : p.pipelines[s]? = some pipe)
    (hlive : pipe.aborted = false) (hstage : pipe.stage.isExchange = true) {call : Call}
    (hcall : ∀ d, call = .awaiting d → p.replyOf s = some d) (payload : Payload) :
    ((p.pollCall pipe.owner call payload).resume s pipe.owner).Waits queue := by
  have hask := h.ask call
  unfold pollCall
  split
  · rename_i transport call' hpoll
    obtain ⟨d, rfl⟩ := MockTransport.poll_waiting hpoll
    have htransport : (p.transport.poll call).1 = transport := by rw [hpoll]
    have hwaits : (p.transport.poll call).2 = .waiting (.awaiting d) := by rw [hpoll]
    have hpending := h.replies.isPending_of_waits hcall hwaits
    rw [htransport] at hask
    refine hask.step (.awaiting (.awaiting d) payload) hpipe rfl rfl (fun _ => rfl) ?_ ?_
      (fun sleep hsleep => by cases hsleep) fun d' hd' => ?_
    · -- it had no sleep, and has none
      refine h.sleeps.of_unregistered (x := .pipeline s)
        (sleepOf_of_ne (p := p) hpipe rfl rfl) ?_ ?_
      · intro sleep hsleep
        simp [sleepOf, hpipe, Stage.sleep?_of_isExchange hstage] at hsleep
      · intro sleep hsleep
        rw [sleepOf_of_modify (p := p) hpipe rfl, if_pos rfl] at hsleep
        cases hsleep
    · -- the reply that it awaits now is the one that `poll` took from the queue
      refine htransport ▸ h.replies.poll (x := s) hcall (fun e he => ?_) fun t hts => ?_
      · rw [replyOf_of_modify (p := p) hpipe rfl, if_pos rfl] at he
        cases he
        exact hwaits
      · rw [replyOf_of_modify (p := p) hpipe rfl, if_neg hts]
    · cases hd'
      rw [← htransport, MockTransport.isPending_poll]
      exact hpending
  · rename_i transport outcome hpoll
    rw [hpoll] at hask
    exact receive_waits hask hpipe hlive hstage payload outcome

/-- `firstExchange` and `resume` preserve `Waits`. -/
theorem firstExchange_waits (h : p.Waits (s :: queue)) (hpipe : p.pipelines[s]? = some pipe)
    (hlive : pipe.aborted = false) (hstage : pipe.stage.isExchange = true) (f : FormId)
    (payload : Except SubmitError Payload) :
    ((p.firstExchange pipe.owner f payload).resume s pipe.owner).Waits queue := by
  unfold firstExchange
  split
  · exact conclude_waits h hpipe hstage _ _
  · split
    · exact conclude_waits h hpipe hstage _ _
    · exact pollCall_waits h hpipe hlive hstage (fun d hd => by cases hd) _

theorem dropAborted_eq (p : Page) (s : PipelineId) (stage : Stage) : p.dropAborted s stage =
    { p with
    pipelines := p.pipelines.modify s (Pipeline.at .finished)
    clock := p.clockDropping stage } := by
  cases stage <;> rfl

/-- `Tracks` after the sleep of a pipeline is dropped. -/
theorem Waits.dropping (h : p.Waits queue) (hheld : p.sleepOf (.pipeline s) = stage.sleep?)
    {held : SleepOwner → Option Sleep} (hnone : held (.pipeline s) = none)
    (hothers : ∀ x, x ≠ .pipeline s → held x = p.sleepOf x) :
    (p.clockDropping stage).Tracks SleepOwner.tag held := by
  cases stage with
  | settling sleep => exact h.sleeps.release hheld hnone hothers
  | accepted | awaiting | finished =>
    refine h.sleeps.of_unregistered hothers (fun sleep hsleep => ?_) fun sleep hsleep => ?_
    · rw [hheld] at hsleep
      cases hsleep
    · rw [hnone] at hsleep
      cases hsleep

/-- `dropAborted` preserves `Waits`. -/
theorem dropAborted_waits (h : p.Waits (s :: queue)) (hpipe : p.pipelines[s]? = some pipe) :
    (p.dropAborted s pipe.stage).Waits queue := by
  rw [dropAborted_eq]
  refine h.step .finished hpipe rfl ?_ (fun _ => rfl) (h.dropping (s := s) ?_ ?_ ?_)
    (h.replies_of_none hpipe rfl rfl) (fun sleep hsleep => by cases hsleep) fun d hd => by cases hd
  · show (p.clockDropping pipe.stage).now = p.clock.now
    unfold clockDropping
    split
    · exact ManualClock.now_release _ _
    · rfl
  · simp only [sleepOf, hpipe, Option.bind_some]
  · rw [sleepOf_of_modify (p := p) hpipe rfl, if_pos rfl]
    rfl
  · exact sleepOf_of_ne (p := p) hpipe rfl rfl

/-- `poll` removes its pipeline from the queue of `Waits`. -/
theorem poll_waits (h : p.Waits (s :: queue)) : (p.poll s).Waits queue := by
  unfold poll
  cases hpipe : p.pipelines[s]? with
  | none => exact h.skip (by simp [sleepOf, hpipe]) (by simp [replyOf, hpipe])
  | some pipe =>
    dsimp only
    split
    · exact dropAborted_waits h hpipe
    · rename_i ha
      have hlive : pipe.aborted = false := by simpa using ha
      split
      · rename_i f payload hstage
        exact firstExchange_waits h hpipe hlive (by rw [hstage]; rfl) f payload
      · rename_i call payload hstage
        refine pollCall_waits h hpipe hlive (by rw [hstage]; rfl) (fun d hd => ?_) payload
        simp [replyOf, hpipe, hstage, hd, Stage.reply?]
      · rename_i sleep hstage
        exact settle_waits h hpipe (.inl hstage) pipe.owner
      · rename_i hstage
        exact h.skip (by simp [sleepOf, hpipe, hstage, Stage.sleep?])
          (by simp [replyOf, hpipe, hstage, Stage.reply?])

/-- The polls of a list empty the queue of `Waits`. -/
theorem polls_wait {l : List PipelineId} (h : p.Waits l) : (l.foldl poll p).Waits [] := by
  induction l generalizing p with
  | nil => exact h
  | cons s rest ih => exact ih (poll_waits h)

/-- `run` empties the queue of `Waits`. -/
theorem run_waits (h : p.Waits p.woken) : p.run.Waits [] := by
  have hall : p.Waits (p.woken ++ p.spawned) := h.mono fun s hs => List.mem_append_left _ hs
  exact polls_wait ⟨hall.sleeps, hall.replies, hall.sleeping, hall.awaiting⟩

end Polls

end Page

end FormSwap
