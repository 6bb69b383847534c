import FormSwap.MockTransport
import Mathlib.Data.List.Nodup

/-!
# Deferred replies

A deferred reply is queued once and given to one request. `MockTransport.Tracks` states this of a
transport and of the replies that are awaited: a queued reply is queued once, an awaited one is not
queued, and no reply is awaited twice. So settling a reply affects one waiter.

Main results:

- `Tracks.defer`, `Tracks.poll`, …: the operations of a transport preserve `Tracks`
- `Tracks.isPending_of_waits`: a call that is pending after a poll awaits a reply that is not
  settled
-/

namespace FormSwap

/-- `r.deferred?` is the id of a deferred reply. -/
def Reply.deferred? : Reply → Option DeferredId
  | .ready _ => none
  | .deferred d => some d

namespace MockTransport

/-- `v.queued` lists the deferred replies in the queue. -/
def queued (v : MockTransport) : List DeferredId :=
  v.queue.filterMap Reply.deferred?

section Small

variable {v : MockTransport} {d e : DeferredId}

theorem isPending_iff : v.isPending d = true ↔ v.deferred[d]? = some .pending := by
  unfold isPending
  split
  · rename_i h
    simp [h]
  · rename_i h
    simpa using h

/-- `settle` preserves the other replies. -/
theorem isPending_settle_of_ne (status : Deferred) (h : e ≠ d) :
    (v.settle d status).isPending e = v.isPending e := by
  unfold isPending settle
  rw [List.getElem?_set_ne (Ne.symm h)]

/-- `defer` preserves pending replies. -/
theorem isPending_defer (h : v.isPending d = true) : v.defer.1.isPending d = true := by
  rw [isPending_iff] at h ⊢
  have hlt : d < v.deferred.length := (List.getElem?_eq_some_iff.mp h).1
  exact (List.getElem?_append_left hlt).trans h

/-- `await` that is pending awaits the same reply, which is not settled. -/
theorem await_waiting {call : Call} (hd : d < v.deferred.length)
    (h : v.await d = .waiting call) : call = .awaiting d ∧ v.isPending d = true := by
  unfold await at h
  split at h
  · cases h
  · cases h
  · rename_i hnot hnot'
    cases h
    refine ⟨rfl, isPending_iff.mpr ?_⟩
    rw [List.getElem?_eq_getElem hd] at hnot hnot' ⊢
    cases hstatus : v.deferred[d] with
    | pending => rfl
    | delivered outcome => exact absurd (by rw [hstatus]) (hnot outcome)
    | dropped => exact absurd (by rw [hstatus]) hnot'

/-- `poll` settles nothing. -/
@[simp] theorem deferred_poll (v : MockTransport) (call : Call) :
    (v.poll call).1.deferred = v.deferred := by
  cases call with
  | awaiting => rfl
  | unsent request =>
    simp only [poll, send]
    split <;> rfl

theorem isPending_poll (v : MockTransport) (call : Call) (d : DeferredId) :
    (v.poll call).1.isPending d = v.isPending d := by
  unfold isPending
  rw [deferred_poll]

end Small

/-- `v.Tracks awaited`: no deferred reply is queued or awaited twice, where `awaited x` is the reply
that `x` awaits. -/
structure Tracks {ι : Type} (v : MockTransport) (awaited : ι → Option DeferredId) : Prop where
  nodup : v.queued.Nodup
  known : ∀ d ∈ v.queued, d < v.deferred.length
  taken : ∀ x d, awaited x = some d → d ∉ v.queued ∧ d < v.deferred.length
  distinct : ∀ x y d, awaited x = some d → awaited y = some d → x = y

namespace Tracks

variable {ι : Type} {v : MockTransport} {awaited awaited' : ι → Option DeferredId} {x : ι}
  {d : DeferredId}

/-- `Tracks` holds of an empty queue if nothing is awaited. -/
theorem of_none (hq : v.queue = []) (hawaited : ∀ x, awaited x = none) : v.Tracks awaited where
  nodup := by simp [queued, hq]
  known d hd := by simp [queued, hq] at hd
  taken x d hx := by simp [hawaited] at hx
  distinct x y d hx := by simp [hawaited] at hx

/-- `Tracks` is preserved if fewer replies are awaited. -/
theorem of_fewer (h : v.Tracks awaited) (hless : ∀ x d, awaited' x = some d → awaited x = some d) :
    v.Tracks awaited' where
  nodup := h.nodup
  known := h.known
  taken x d hx := h.taken x d (hless x d hx)
  distinct x y d hx hy := h.distinct x y d (hless x d hx) (hless y d hy)

/-- `enqueue` of a ready reply preserves `Tracks`. -/
theorem enqueue_ready (h : v.Tracks awaited) (outcome : Outcome) :
    (v.enqueue (.ready outcome)).Tracks awaited := by
  have hq : (v.enqueue (.ready outcome)).queued = v.queued := by
    simp [queued, enqueue, Reply.deferred?]
  exact ⟨hq ▸ h.nodup, hq ▸ h.known, hq ▸ h.taken, h.distinct⟩

/-- `defer` preserves `Tracks`. -/
theorem defer (h : v.Tracks awaited) : v.defer.1.Tracks awaited := by
  have hq : v.defer.1.queued = v.queued ++ [v.deferred.length] := by
    simp [queued, MockTransport.defer, Reply.deferred?]
  have hlen : v.defer.1.deferred.length = v.deferred.length + 1 := by simp [MockTransport.defer]
  refine ⟨?_, fun d hd => ?_, fun x d hx => ?_, h.distinct⟩
  · rw [hq]
    refine List.nodup_append.mpr ⟨h.nodup, by simp, fun d hd e he => ?_⟩
    have hlt := h.known d hd
    rw [List.mem_singleton.mp he]
    exact Nat.ne_of_lt hlt
  · rw [hq, List.mem_append, List.mem_singleton] at hd
    rcases hd with hold | rfl
    · exact hlen ▸ Nat.lt_succ_of_lt (h.known d hold)
    · exact hlen ▸ Nat.lt_succ_self _
  · obtain ⟨hnot, hlt⟩ := h.taken x d hx
    refine ⟨fun hd => ?_, hlen ▸ Nat.lt_succ_of_lt hlt⟩
    rw [hq, List.mem_append, List.mem_singleton] at hd
    rcases hd with hold | hnew
    · exact hnot hold
    · exact Nat.ne_of_lt hlt hnew

/-- `settle` preserves `Tracks`. -/
theorem settle (h : v.Tracks awaited) (d : DeferredId) (status : Deferred) :
    (v.settle d status).Tracks awaited := by
  have hlen : (v.settle d status).deferred.length = v.deferred.length := List.length_set
  refine ⟨h.nodup, fun e he => ?_, fun x e hx => ?_, h.distinct⟩
  · rw [hlen]
    exact h.known e he
  · rw [hlen]
    exact h.taken x e hx

/-- `send` removes the next reply from the queue, and a pending call awaits that reply. -/
theorem send_cases (h : v.Tracks awaited) (request : FormRequest) :
    (v.send request).1.Tracks awaited ∧
      ∀ call, (v.send request).2 = .waiting call → ∃ d, call = .awaiting d ∧
        d ∉ (v.send request).1.queued ∧ d < v.deferred.length ∧ v.isPending d = true ∧
        ∀ x, awaited x ≠ some d := by
  obtain ⟨hnodup, hknown, htaken, hdistinct⟩ := h
  unfold send
  split
  · exact ⟨⟨hnodup, hknown, htaken, hdistinct⟩, fun call hcall => by cases hcall⟩
  · rename_i outcome rest hq
    have hqueued : v.queued = rest.filterMap Reply.deferred? := by
      unfold queued
      rw [hq]
      rfl
    rw [hqueued] at hnodup hknown htaken
    exact ⟨⟨hnodup, hknown, htaken, hdistinct⟩, fun call hcall => by cases hcall⟩
  · rename_i d rest hq
    have hqueued : v.queued = d :: rest.filterMap Reply.deferred? := by
      unfold queued
      rw [hq]
      rfl
    rw [hqueued] at hnodup hknown htaken
    obtain ⟨hnew, hrest⟩ := List.nodup_cons.mp hnodup
    have hlt : d < v.deferred.length := hknown d List.mem_cons_self
    refine ⟨⟨hrest, fun e he => hknown e (List.mem_cons_of_mem d he), fun x e hx => ?_,
      hdistinct⟩, fun call hcall => ?_⟩
    · obtain ⟨hnot, hlt'⟩ := htaken x e hx
      exact ⟨fun he => hnot (List.mem_cons_of_mem d he), hlt'⟩
    · obtain ⟨rfl, hpending⟩ := await_waiting hlt hcall
      exact ⟨d, rfl, hnew, hlt, hpending, fun x hx => (htaken x d hx).1 List.mem_cons_self⟩

/-- `poll` of a call that is not tracked preserves `Tracks`. -/
theorem poll_other (h : v.Tracks awaited) (call : Call) : (v.poll call).1.Tracks awaited := by
  cases call with
  | awaiting => exact h
  | unsent request => exact (h.send_cases request).1

/-- `poll` of a tracked call preserves `Tracks`. -/
theorem poll (h : v.Tracks awaited) {call : Call}
    (hcall : ∀ d, call = .awaiting d → awaited x = some d)
    (hx' : ∀ d, awaited' x = some d → (v.poll call).2 = .waiting (.awaiting d))
    (hothers : ∀ y, y ≠ x → awaited' y = awaited y) : (v.poll call).1.Tracks awaited' := by
  cases call with
  | awaiting d =>
    refine h.of_fewer fun y e hy => ?_
    by_cases hyx : y = x
    · subst hyx
      -- a pending poll of an awaiting call awaits the same reply
      have hwaits := hcall d rfl
      obtain ⟨heq, -⟩ := await_waiting (h.taken y d hwaits).2 (hx' e hy)
      cases heq
      exact hwaits
    · rw [← hothers y hyx]
      exact hy
  | unsent request =>
    obtain ⟨hsent, hnew⟩ := h.send_cases request
    have hlen : (v.send request).1.deferred = v.deferred := v.deferred_poll (.unsent request)
    have hfresh {e : DeferredId} (he : awaited' x = some e) :
        e ∉ (v.send request).1.queued ∧ e < v.deferred.length ∧ ∀ y, awaited y ≠ some e := by
      obtain ⟨e', heq, hnot, hlt, -, hnobody⟩ := hnew _ (hx' e he)
      cases heq
      exact ⟨hnot, hlt, hnobody⟩
    refine ⟨hsent.nodup, hsent.known, fun y e hy => ?_, fun y z e hy hz => ?_⟩
    · by_cases hyx : y = x
      · subst hyx
        obtain ⟨hnot, hlt, -⟩ := hfresh hy
        exact ⟨hnot, by simpa [MockTransport.poll, hlen] using hlt⟩
      · rw [hothers y hyx] at hy
        exact hsent.taken y e hy
    · by_cases hyx : y = x
      · by_cases hzx : z = x
        · rw [hyx, hzx]
        · rw [hyx] at hy
          rw [hothers z hzx] at hz
          exact absurd hz ((hfresh hy).2.2 z)
      · rw [hothers y hyx] at hy
        by_cases hzx : z = x
        · rw [hzx] at hz
          exact absurd hy ((hfresh hz).2.2 y)
        · rw [hothers z hzx] at hz
          exact h.distinct y z e hy hz

/-- A call that is pending after `poll` awaits a reply that is not settled. -/
theorem isPending_of_waits (h : v.Tracks awaited) {call : Call}
    (hcall : ∀ d, call = .awaiting d → awaited x = some d)
    (hwaits : (v.poll call).2 = .waiting (.awaiting d)) : v.isPending d = true := by
  cases call with
  | awaiting e =>
    obtain ⟨heq, hpending⟩ := await_waiting (h.taken x e (hcall e rfl)).2 hwaits
    cases heq
    exact hpending
  | unsent request =>
    obtain ⟨e, heq, -, -, hpending, -⟩ := (h.send_cases request).2 _ hwaits
    cases heq
    exact hpending

end Tracks

end MockTransport

end FormSwap
