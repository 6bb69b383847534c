import FormSwap.Proofs.Course
import FormSwap.Proofs.Replies
import FormSwap.Proofs.Slots
import Mathlib.Data.List.Nodup
import Mathlib.Data.List.Range

/-!
# The mock transport and its calls

`TransportCalls` is a `MockTransport` with all the calls created from it, used in any order: replies
are queued or deferred, calls are created, polled and dropped, and deferred replies are delivered or
dropped by their holders.

`History` is a specification. It has what was queued, the status of each deferred reply, the calls
that were polled, and those that found a reply in the queue. It depends on the queue only through
whether it is empty. The result of every poll is a function of the history: the calls that found a
reply are matched with the replies in queue order, and the result of a call depends on its own reply
only.

Main definitions:

- `TransportCalls.step`: one operation on a transport and its calls
- `TransportCalls.History.reply?`: the reply that a call is matched with
- `TransportCalls.History.answer`: the result of a poll by the history

Main results:

- `TransportCalls.History.Covers.poll`: `poll` answers as the history says
- `TransportCalls.Agrees.step`: every operation preserves `Agrees`
- `TransportCalls.ofPage_perform`: the calls of a page's user behave as in `TransportCalls`
- `TransportCalls.replies_are_served_in_order`: replies are served in queue order
-/

namespace FormSwap

/-- `TransportCalls` is a transport with the calls created from it. The entry of a call that has
ended is `none`. -/
structure TransportCalls where
  transport : MockTransport := {}
  calls : List (Option Call) := []

namespace TransportCalls

/-- `Op` is one operation. -/
inductive Op where
  /-- Queues a reply. -/
  | reply (outcome : Outcome)
  /-- Queues a deferred reply. -/
  | defer
  /-- Creates a call without polling it. -/
  | call (request : FormRequest)
  | poll (k : Nat)
  | dropCall (k : Nat)
  | deliver (d : DeferredId) (outcome : Outcome)
  | dropDeferred (d : DeferredId)

/-- `Answer` is the return value of an operation. -/
inductive Answer where
  | done
  /-- There is no such call or deferred reply, or it has ended. -/
  | missing
  | waiting
  | finished (outcome : Outcome)

/-- `s.call? k` is the call `k`, unless it has ended. -/
def call? (s : TransportCalls) (k : Nat) : Option Call :=
  (s.calls[k]?).join

/-- `rest? progress` is the call after a poll that is pending. -/
def rest? : Progress → Option Call
  | .waiting call => some call
  | .finished _ => none

/-- `shown progress` is the answer of a poll. -/
def shown : Progress → Answer
  | .waiting _ => .waiting
  | .finished outcome => .finished outcome

/-- `s.settle d status` settles a deferred reply that is pending. -/
def settle (s : TransportCalls) (d : DeferredId) (status : Deferred) : TransportCalls × Answer :=
  if s.transport.isPending d then ({ s with transport := s.transport.settle d status }, .done)
  else (s, .missing)

/-- `s.step op` performs one operation. -/
def step (s : TransportCalls) : Op → TransportCalls × Answer
  | .reply outcome => ({ s with transport := s.transport.enqueue (.ready outcome) }, .done)
  | .defer => ({ s with transport := s.transport.defer.1 }, .done)
  | .call request => ({ s with calls := s.calls ++ [some (.unsent request)] }, .done)
  | .poll k =>
    match s.call? k with
    | none => (s, .missing)
    | some call =>
      let (transport, progress) := s.transport.poll call
      ({ transport, calls := s.calls.set k (rest? progress) }, shown progress)
  | .dropCall k =>
    match s.call? k with
    | none => (s, .missing)
    | some _ => ({ s with calls := s.calls.set k none }, .done)
  | .deliver d outcome => s.settle d (.delivered outcome)
  | .dropDeferred d => s.settle d .dropped

/-! ## Histories -/

/-- `Record` is what the history has of a call. -/
structure Record where
  request : FormRequest
  /-- A poll was ready, or it was dropped. -/
  ended : Bool := false

/-- `History` is what was done, without the state of the transport. -/
structure History where
  /-- All replies ever queued. -/
  replies : List Reply := []
  /-- The statuses of the deferred replies. -/
  statuses : List Deferred := []
  records : List Record := []
  /-- The calls that were polled, in the order of their first polls. -/
  polled : List Nat := []
  /-- Those of them that found a reply in the queue. -/
  served : List Nat := []

namespace History

/-- `j.poll v k` is the history after a poll of `k`. -/
def poll (j : History) (v : MockTransport) (k : Nat) : History :=
  if k ∈ j.polled then j
  else if v.queue.isEmpty then { j with polled := j.polled ++ [k] }
  else { j with polled := j.polled ++ [k], served := j.served ++ [k] }

/-- `j.finish k` is the history after the end of `k`. -/
def finish (j : History) (k : Nat) : History :=
  { j with records := j.records.modify k fun r => { r with ended := true } }

/-- `j.settle d status` is the history after a deferred reply is settled, which is possible once. -/
def settle (j : History) (d : DeferredId) (status : Deferred) : History :=
  { j with
    statuses :=
      match j.statuses[d]? with
      | some .pending => j.statuses.set d status
      | _ => j.statuses }

/-- `j.note s op` is the history after the operation `op` on `s`. -/
def note (j : History) (s : TransportCalls) : Op → History
  | .reply outcome => { j with replies := j.replies ++ [.ready outcome] }
  | .defer =>
    { j with
      replies := j.replies ++ [.deferred j.statuses.length]
      statuses := j.statuses ++ [.pending] }
  | .call request => { j with records := j.records ++ [{ request }] }
  | .poll k =>
    match (s.step (.poll k)).2 with
    | .missing => j
    | .finished _ => (j.poll s.transport k).finish k
    | _ => j.poll s.transport k
  | .dropCall k => j.finish k
  | .deliver d outcome => j.settle d (.delivered outcome)
  | .dropDeferred d => j.settle d .dropped

/-- `j.reply? k` is the reply of a call: the first call that found a reply has the first reply that
was queued, the second one the second, and so on. -/
def reply? (j : History) (k : Nat) : Option Reply :=
  if k ∈ j.served then j.replies[j.served.idxOf k]? else none

/-- `j.answer k` is the result of a poll of `k`. -/
def answer (j : History) (k : Nat) : Answer :=
  match j.reply? k with
  | none => .finished (.error .noReply)
  | some (.ready outcome) => .finished outcome
  | some (.deferred d) =>
    match j.statuses[d]? with
    | some (.delivered outcome) => .finished outcome
    | some .dropped => .finished (.error .replyDropped)
    | _ => .waiting

end History

/-- `run ops` is the state and the history after a list of operations. -/
def run (ops : List Op) : TransportCalls × History :=
  ops.foldl (fun x op => ((x.1.step op).1, x.2.note x.1 op)) ({}, {})

/-- `after ops` is the state after a list of operations. -/
def after (ops : List Op) : TransportCalls :=
  (run ops).1

/-- `history ops` is the history of a list of operations. -/
def history (ops : List Op) : History :=
  (run ops).2

theorem after_concat (ops : List Op) (op : Op) :
    after (ops ++ [op]) = ((after ops).step op).1 := by
  simp [after, run]

theorem history_concat (ops : List Op) (op : Op) :
    history (ops ++ [op]) = (history ops).note (after ops) op := by
  simp [history, after, run]

variable {s : TransportCalls} {j j' : History} {v : MockTransport} {k : Nat} {call : Call}
  {r : Record}
  {d : DeferredId} {reply : Reply}

namespace History

/-! ## Replies of calls -/

theorem mem_served_of_reply? (h : j.reply? k = some reply) : k ∈ j.served := by
  by_contra hk
  rw [reply?, if_neg hk] at h
  cases h

/-- `reply?` is monotone in the replies and the served calls. -/
theorem reply?_mono (h : j.reply? k = some reply) (hserved : j.served <+: j'.served)
    (hreplies : j.replies <+: j'.replies) : j'.reply? k = some reply := by
  obtain ⟨later, hserved⟩ := hserved
  obtain ⟨more, hreplies⟩ := hreplies
  have hk := mem_served_of_reply? h
  rw [reply?, if_pos hk] at h
  rw [reply?, ← hserved, if_pos (List.mem_append_left later hk), List.idxOf_append_of_mem hk,
    ← hreplies, List.getElem?_append_left (List.getElem?_eq_some_iff.mp h).1]
  exact h

/-- `reply?` of a newly served call is the next reply. -/
theorem reply?_served (hk : k ∉ j.served) :
    reply? { j with polled := j.polled ++ [k], served := j.served ++ [k] } k =
      j.replies[j.served.length]? := by
  simp [reply?, List.idxOf_append_of_notMem hk]

@[simp] theorem request_finish (j : History) (k m : Nat) :
    ((j.finish k).records[m]?).map (·.request) = (j.records[m]?).map (·.request) := by
  rw [finish, List.getElem?_modify]
  cases j.records[m]? with
  | none => rfl
  | some r =>
    simp only [Option.map_eq_map, Option.map_some]
    split <;> rfl

/-! ## The transport and the history -/

/-- `j.Covers v`: the history `j` is right about the transport `v`. -/
structure Covers (j : History) (v : MockTransport) : Prop where
  statuses : v.deferred = j.statuses
  /-- The queue is the replies that no call has. -/
  queue : v.queue = j.replies.drop j.served.length
  enough : j.served.length ≤ j.replies.length
  requests : v.requests.map some = j.polled.map fun k => (j.records[k]?).map (·.request)
  served : j.served.Sublist j.polled
  polled : j.polled.Nodup
  /-- The deferred replies are numbered in queue order. -/
  numbers : j.replies.filterMap Reply.deferred? = List.range j.statuses.length

namespace Covers

theorem lt_of_polled (h : j.Covers v) (hk : k ∈ j.polled) : k < j.records.length := by
  have hmem : (j.records[k]?).map (·.request) ∈ v.requests.map some := by
    rw [h.requests]
    exact List.mem_map_of_mem hk
  obtain ⟨request, -, hrequest⟩ := List.mem_map.mp hmem
  obtain ⟨r, hr, -⟩ := Option.map_eq_some_iff.mp hrequest.symm
  exact (List.getElem?_eq_some_iff.mp hr).1

/-- No two calls have the same deferred reply. -/
theorem eq_of_reply? (h : j.Covers v) {k' : Nat} (hk : j.reply? k = some (.deferred d))
    (hk' : j.reply? k' = some (.deferred d)) : k = k' := by
  have hmem := mem_served_of_reply? hk
  have hmem' := mem_served_of_reply? hk'
  rw [reply?, if_pos hmem] at hk
  rw [reply?, if_pos hmem'] at hk'
  obtain ⟨hlt, hget⟩ := List.getElem?_eq_some_iff.mp hk
  obtain ⟨hlt', hget'⟩ := List.getElem?_eq_some_iff.mp hk'
  have hnodup : (j.replies.filterMap Reply.deferred?).Pairwise (· ≠ ·) :=
    h.numbers ▸ List.nodup_range
  have hapart := List.pairwise_iff_getElem.mp (List.pairwise_filterMap.mp hnodup)
  -- the reply occurs once, so the two calls have the same index in `served`
  rcases Nat.lt_trichotomy (j.served.idxOf k) (j.served.idxOf k') with hlow | hsame | hhigh
  · exact absurd rfl (hapart _ _ hlt hlt' hlow d (by rw [hget]; rfl) d (by rw [hget']; rfl))
  · exact (List.idxOf_inj hmem).mp hsame
  · exact absurd rfl (hapart _ _ hlt' hlt hhigh d (by rw [hget']; rfl) d (by rw [hget]; rfl))

theorem finish (h : j.Covers v) (k : Nat) : (j.finish k).Covers v where
  statuses := h.statuses
  queue := h.queue
  enough := h.enough
  requests := by
    simp only [request_finish]
    exact h.requests
  served := h.served
  polled := h.polled
  numbers := h.numbers

theorem enqueue (h : j.Covers v) (outcome : Outcome) :
    Covers { j with replies := j.replies ++ [.ready outcome] }
      (v.enqueue (.ready outcome)) where
  statuses := h.statuses
  queue := by rw [List.drop_append_of_le_length h.enough, ← h.queue]; rfl
  enough := by simpa using Nat.le_succ_of_le h.enough
  requests := h.requests
  served := h.served
  polled := h.polled
  numbers := by
    rw [List.filterMap_append, h.numbers]
    exact List.append_nil _

theorem defer (h : j.Covers v) :
    Covers { j with replies := j.replies ++ [.deferred j.statuses.length]
                    statuses := j.statuses ++ [.pending] } v.defer.1 where
  statuses := by simp [MockTransport.defer, h.statuses]
  queue := by
    rw [List.drop_append_of_le_length h.enough, ← h.queue, ← h.statuses]
    rfl
  enough := by simpa using Nat.le_succ_of_le h.enough
  requests := h.requests
  served := h.served
  polled := h.polled
  numbers := by simp [Reply.deferred?, h.numbers, List.range_succ]

theorem newCall (h : j.Covers v) (request : FormRequest) :
    Covers { j with records := j.records ++ [{ request }] } v where
  statuses := h.statuses
  queue := h.queue
  enough := h.enough
  requests := by
    rw [h.requests]
    refine List.map_congr_left fun k hk => ?_
    rw [List.getElem?_append_left (h.lt_of_polled hk)]
  served := h.served
  polled := h.polled
  numbers := h.numbers

/-- `settle` changes the status of a deferred reply exactly if it is pending. -/
theorem statuses_settle (h : j.Covers v) (d : DeferredId) (status : Deferred) :
    (j.settle d status).statuses =
      if v.isPending d then j.statuses.set d status else j.statuses := by
  have hpending := MockTransport.isPending_iff (v := v) (d := d)
  rw [h.statuses] at hpending
  simp only [History.settle]
  split
  · rename_i hstatus
    rw [if_pos (hpending.mpr hstatus)]
  · rename_i hnot
    rw [if_neg fun hd => hnot (hpending.mp hd)]

theorem settle (h : j.Covers v) (status : Deferred) (hd : v.isPending d = true) :
    (j.settle d status).Covers (v.settle d status) where
  statuses := by
    rw [h.statuses_settle, if_pos hd, ← h.statuses]
    rfl
  queue := h.queue
  enough := h.enough
  requests := h.requests
  served := h.served
  polled := h.polled
  numbers := by
    rw [h.statuses_settle, if_pos hd, List.length_set]
    exact h.numbers

/-- The request log after a first poll. -/
private theorem requests_log (h : j.Covers v) (hr : j.records[k]? = some r) :
    (v.requests ++ [r.request]).map some =
      (j.polled ++ [k]).map fun k => (j.records[k]?).map (·.request) := by
  rw [List.map_append, List.map_append, h.requests, List.map_singleton, List.map_singleton, hr]
  rfl

private theorem nodup_log (h : j.Covers v) (hk : k ∉ j.polled) : (j.polled ++ [k]).Nodup :=
  List.nodup_append.mpr ⟨h.polled, List.nodup_singleton k, fun m hm n hn => by
    rintro rfl
    exact hk (List.mem_singleton.mp hn ▸ hm)⟩

/-- `Covers` after a first poll that finds the queue empty. -/
theorem log (h : j.Covers v) (hk : k ∉ j.polled) (hr : j.records[k]? = some r) :
    Covers { j with polled := j.polled ++ [k] }
      { v with requests := v.requests ++ [r.request] } where
  statuses := h.statuses
  queue := h.queue
  enough := h.enough
  requests := h.requests_log hr
  served := h.served.trans (List.sublist_append_left _ _)
  polled := h.nodup_log hk
  numbers := h.numbers

/-- `Covers` after a first poll that takes a reply. -/
theorem serve (h : j.Covers v) (hk : k ∉ j.polled) (hr : j.records[k]? = some r)
    {rest : List Reply} (hq : v.queue = reply :: rest) :
    Covers { j with polled := j.polled ++ [k], served := j.served ++ [k] }
      { v with requests := v.requests ++ [r.request], queue := rest } ∧
    reply? { j with polled := j.polled ++ [k], served := j.served ++ [k] } k = some reply := by
  have hdrop : j.replies.drop j.served.length = reply :: rest := h.queue.symm.trans hq
  have hlt : j.served.length < j.replies.length := by
    by_contra hle
    rw [List.drop_eq_nil_of_le (Nat.not_lt.mp hle)] at hdrop
    cases hdrop
  rw [List.drop_eq_getElem_cons hlt] at hdrop
  obtain ⟨hhead, htail⟩ := List.cons.inj hdrop
  refine ⟨⟨h.statuses, ?_, ?_, h.requests_log hr, h.served.append (List.Sublist.refl _),
    h.nodup_log hk, h.numbers⟩, ?_⟩
  · simpa using htail.symm
  · simpa using Nat.succ_le_of_lt hlt
  · rw [reply?_served fun hmem => hk (h.served.subset hmem), List.getElem?_eq_getElem hlt, hhead]

/-- `await` of a call's deferred reply answers as the history says. -/
theorem await (h : j.Covers v) (hk : j.reply? k = some (.deferred d)) :
    shown (v.await d) = j.answer k ∧ ∀ c, rest? (v.await d) = some c → c = .awaiting d := by
  simp only [answer, hk, MockTransport.await, h.statuses]
  cases j.statuses[d]? with
  | none => exact ⟨rfl, fun c hc => (Option.some.inj hc).symm⟩
  | some status =>
    cases status with
    | pending => exact ⟨rfl, fun c hc => (Option.some.inj hc).symm⟩
    | delivered outcome => exact ⟨rfl, fun c hc => by cases hc⟩
    | dropped => exact ⟨rfl, fun c hc => by cases hc⟩

end Covers

/-! ## The calls and the history -/

/-- `j.Describes k r slot`: the record `r` is right about the call `k`, which is in `slot`. -/
def Describes (j : History) (k : Nat) (r : Record) : Option Call → Prop
  | none => r.ended = true
  | some (.unsent request) => r.ended = false ∧ request = r.request ∧ k ∉ j.polled
  | some (.awaiting d) => r.ended = false ∧ k ∈ j.polled ∧ j.reply? k = some (.deferred d)

theorem Describes.not_ended (h : j.Describes k r (some call)) : r.ended = false := by
  cases call with
  | unsent => exact h.1
  | awaiting => exact h.1

/-- `Describes` is preserved by operations on other calls. -/
theorem Describes.mono {slot : Option Call} (h : j.Describes k r slot)
    (hpolled : k ∈ j'.polled ↔ k ∈ j.polled) (hserved : j.served <+: j'.served)
    (hreplies : j.replies <+: j'.replies) : j'.Describes k r slot := by
  cases slot with
  | none => exact h
  | some call =>
    cases call with
    | unsent request => exact ⟨h.1, h.2.1, fun hk => h.2.2 (hpolled.mp hk)⟩
    | awaiting d => exact ⟨h.1, hpolled.mpr h.2.1, reply?_mono h.2.2 hserved hreplies⟩

/-- `poll` changes the history of its own call only. -/
theorem poll_spec (j : History) (v : MockTransport) (k : Nat) :
    k ∈ (j.poll v k).polled ∧ (∀ m ≠ k, m ∈ (j.poll v k).polled ↔ m ∈ j.polled) ∧
      j.served <+: (j.poll v k).served ∧ (j.poll v k).replies = j.replies ∧
      (j.poll v k).records = j.records := by
  unfold poll
  split
  · rename_i hk
    exact ⟨hk, fun m _ => Iff.rfl, List.prefix_refl _, rfl, rfl⟩
  · split
    · exact ⟨by simp, fun m hm => by simp [hm], List.prefix_refl _, rfl, rfl⟩
    · exact ⟨by simp, fun m hm => by simp [hm], List.prefix_append _ _, rfl, rfl⟩

/-- `poll` answers as the history says, and a pending call awaits its own reply. -/
theorem Covers.poll (h : j.Covers v) (hr : j.records[k]? = some r)
    (hcall : j.Describes k r (some call)) :
    (j.poll v k).Covers (v.poll call).1 ∧ shown (v.poll call).2 = (j.poll v k).answer k ∧
      ∀ c, rest? (v.poll call).2 = some c →
        ∃ d, c = .awaiting d ∧ (j.poll v k).reply? k = some (.deferred d) := by
  cases call with
  | awaiting d =>
    obtain ⟨-, hpolled, hreply⟩ := hcall
    obtain ⟨hshown, hrest⟩ := h.await hreply
    rw [poll, if_pos hpolled]
    exact ⟨h, hshown, fun c hc => ⟨d, hrest c hc, hreply⟩⟩
  | unsent request =>
    obtain ⟨-, rfl, hk⟩ := hcall
    rw [poll, if_neg hk, MockTransport.poll, MockTransport.send]
    cases hq : v.queue with
    | nil =>
      have hnone : reply? { j with polled := j.polled ++ [k] } k = none :=
        if_neg fun hmem => hk (h.served.subset hmem)
      refine ⟨?_, ?_, fun c hc => by cases hc⟩
      · simpa [hq] using h.log hk hr
      · simp [answer, hnone, shown]
    | cons reply rest =>
      obtain ⟨hcovers, hreply⟩ := h.serve hk hr hq
      cases reply with
      | ready outcome =>
        refine ⟨by simpa using hcovers, ?_, fun c hc => by cases hc⟩
        simp [answer, hreply, shown]
      | deferred d =>
        obtain ⟨hshown, hrest⟩ := hcovers.await hreply
        exact ⟨hcovers, hshown, fun c hc => ⟨d, hrest c hc, hreply⟩⟩

end History

/-! ## Agreement of state and history -/

/-- `Agrees s j`: the history `j` is right about the transport and about every call. -/
structure Agrees (s : TransportCalls) (j : History) : Prop where
  covers : j.Covers s.transport
  length : j.records.length = s.calls.length
  describes : ∀ (k : Nat) (r : Record), j.records[k]? = some r → j.Describes k r (s.call? k)

theorem agrees_empty : Agrees {} {} where
  covers := ⟨rfl, rfl, Nat.le_refl _, rfl, List.Sublist.refl _, List.nodup_nil, rfl⟩
  length := rfl
  describes k r hr := by simp at hr

/-- Every call has a record that describes it. -/
theorem Agrees.exists_record (h : Agrees s j) (hcall : s.call? k = some call) :
    ∃ r, j.records[k]? = some r ∧ j.Describes k r (some call) := by
  have hlt : k < j.records.length := h.length ▸ Slots.lt_length hcall
  refine ⟨_, List.getElem?_eq_getElem hlt, ?_⟩
  rw [← hcall]
  exact h.describes k _ (List.getElem?_eq_getElem hlt)

/-- `Agrees` is preserved if only the transport changes. -/
theorem Agrees.of_transport (h : Agrees s j) {transport : MockTransport}
    (hcovers : j'.Covers transport)
    (hrecords : j'.records = j.records) (hpolled : j'.polled = j.polled)
    (hserved : j'.served = j.served) (hreplies : j.replies <+: j'.replies) :
    Agrees { s with transport } j' where
  covers := hcovers
  length := hrecords ▸ h.length
  describes k r hr := by
    rw [hrecords] at hr
    exact (h.describes k r hr).mono (by rw [hpolled]) (hserved ▸ List.prefix_refl _) hreplies

theorem Agrees.step_settle (h : Agrees s j) (d : DeferredId) (status : Deferred) :
    Agrees (s.settle d status).1 (j.settle d status) := by
  unfold TransportCalls.settle
  split
  · rename_i hd
    exact h.of_transport (h.covers.settle status hd) rfl rfl rfl (List.prefix_refl _)
  · rename_i hd
    have hsame : j.settle d status = j := by
      have hstatuses := h.covers.statuses_settle d status
      rw [if_neg hd] at hstatuses
      exact congrArg (fun statuses => { j with statuses }) hstatuses
    rw [hsame]
    exact h

theorem Agrees.step_call (h : Agrees s j) (request : FormRequest) :
    Agrees (s.step (.call request)).1 (j.note s (.call request)) := by
  have hcall (m : Nat) : (s.step (.call request)).1.call? m =
      if m = s.calls.length then some (.unsent request) else s.call? m :=
    Slots.join_getElem?_concat s.calls _ m
  refine ⟨h.covers.newCall request, by simp [History.note, step, h.length], fun k r hr => ?_⟩
  rw [hcall]
  by_cases hlt : k < j.records.length
  · have hr : j.records[k]? = some r := (List.getElem?_append_left hlt).symm.trans hr
    rw [if_neg (by rw [← h.length]; omega)]
    exact (h.describes k r hr).mono Iff.rfl (List.prefix_refl _) (List.prefix_refl _)
  · -- the record is the new one
    have hk : k < j.records.length + 1 := by
      simpa [History.note] using (List.getElem?_eq_some_iff.mp hr).1
    obtain rfl : k = j.records.length := by omega
    obtain rfl : { request } = r := by simpa [History.note] using hr
    rw [if_pos h.length]
    exact ⟨rfl, rfl, fun hpolled => absurd (h.covers.lt_of_polled hpolled) (Nat.lt_irrefl _)⟩

/-- `Agrees` is preserved if one call changes together with its record. -/
theorem Agrees.modify (h : Agrees s j) (hcall : s.call? k = some call) {transport : MockTransport}
    {slot : Option Call} (hcovers : j'.Covers transport)
    (hlength : j'.records.length = j.records.length)
    (hk : ∀ r, j'.records[k]? = some r → j'.Describes k r slot)
    (hothers : ∀ m r, m ≠ k → j'.records[m]? = some r → j.records[m]? = some r)
    (hpolled : ∀ m, m ≠ k → (m ∈ j'.polled ↔ m ∈ j.polled)) (hserved : j.served <+: j'.served)
    (hreplies : j.replies <+: j'.replies) :
    Agrees { transport, calls := s.calls.set k slot } j' where
  covers := hcovers
  length := by
    rw [hlength, h.length]
    exact List.length_set.symm
  describes m r hr := by
    have hslot : call? { transport, calls := s.calls.set k slot } m =
        if m = k then slot else s.call? m :=
      Slots.join_getElem?_set (Slots.lt_length hcall) slot m
    rw [hslot]
    split
    · rename_i heq
      exact heq ▸ hk r (heq ▸ hr)
    · rename_i hne
      exact (h.describes m r (hothers m r hne hr)).mono (hpolled m hne) hserved hreplies

theorem History.getElem?_finish_of_ne (j : History) {m : Nat} (h : m ≠ k) :
    (j.finish k).records[m]? = j.records[m]? :=
  List.getElem?_modify_ne _ _ (Ne.symm h)

theorem History.ended_finish (hr : (j.finish k).records[k]? = some r) : r.ended = true := by
  rw [History.finish, List.getElem?_modify_eq] at hr
  obtain ⟨old, -, rfl⟩ := Option.map_eq_some_iff.mp hr
  rfl

theorem step_poll_of_call (hcall : s.call? k = some call) :
    s.step (.poll k) = ({ transport := (s.transport.poll call).1
                          calls := s.calls.set k (rest? (s.transport.poll call).2) },
      shown (s.transport.poll call).2) := by
  simp only [step, hcall]

/-- `note` of a poll is `poll`, and `finish` if the poll is ready. -/
theorem note_poll_of_call (hcall : s.call? k = some call) :
    j.note s (.poll k) =
      match (s.transport.poll call).2 with
      | .waiting _ => j.poll s.transport k
      | .finished _ => (j.poll s.transport k).finish k := by
  rw [History.note, step_poll_of_call hcall]
  cases (s.transport.poll call).2 <;> rfl

theorem Agrees.step_poll (h : Agrees s j) (k : Nat) :
    Agrees (s.step (.poll k)).1 (j.note s (.poll k)) := by
  cases hcall : s.call? k with
  | none =>
    have hstep : s.step (.poll k) = (s, .missing) := by simp [TransportCalls.step, hcall]
    rw [History.note, hstep]
    exact h
  | some call =>
    obtain ⟨r, hr, hdescribes⟩ := h.exists_record hcall
    obtain ⟨hcovers, -, hrest⟩ := h.covers.poll hr hdescribes
    obtain ⟨hpolled, hothers, hserved, hreplies, hrecords⟩ := j.poll_spec s.transport k
    have hprefix : j.replies <+: (j.poll s.transport k).replies := hreplies ▸ List.prefix_refl _
    rw [note_poll_of_call hcall, step_poll_of_call hcall]
    cases hprogress : (s.transport.poll call).2 with
    | waiting left =>
      obtain ⟨d, rfl, hreply⟩ := hrest left (by rw [hprogress]; rfl)
      refine h.modify hcall hcovers (congrArg List.length hrecords) (fun r' hr' => ?_)
        (fun m r' _ hr' => hrecords ▸ hr') hothers hserved hprefix
      rw [hrecords, hr] at hr'
      cases hr'
      exact ⟨hdescribes.not_ended, hpolled, hreply⟩
    | finished outcome =>
      refine h.modify hcall (hcovers.finish k) ?_ (fun r' hr' => History.ended_finish hr')
        (fun m r' hm hr' => ?_) hothers hserved hprefix
      · simp [History.finish, hrecords]
      · rw [History.getElem?_finish_of_ne _ hm, hrecords] at hr'
        exact hr'

theorem Agrees.step_dropCall (h : Agrees s j) (k : Nat) :
    Agrees (s.step (.dropCall k)).1 (j.note s (.dropCall k)) := by
  cases hcall : s.call? k with
  | none =>
    -- the call has ended before
    have hstep : s.step (.dropCall k) = (s, .missing) := by simp [TransportCalls.step, hcall]
    rw [hstep]
    refine ⟨h.covers.finish k, by simpa [History.note, History.finish] using h.length,
      fun m r hr => ?_⟩
    by_cases hm : m = k
    · subst hm
      rw [hcall]
      exact History.ended_finish hr
    · rw [History.note, History.getElem?_finish_of_ne _ hm] at hr
      exact (h.describes m r hr).mono Iff.rfl (List.prefix_refl _) (List.prefix_refl _)
  | some call =>
    have hstep : s.step (.dropCall k) = ({ s with calls := s.calls.set k none }, .done) := by
      simp [TransportCalls.step, hcall]
    rw [hstep]
    refine h.modify hcall (h.covers.finish k) ?_ (fun r hr => History.ended_finish hr)
      (fun m r hm hr => ?_) (fun m _ => Iff.rfl) (List.prefix_refl _) (List.prefix_refl _)
    · simp [History.note, History.finish]
    · rw [History.note, History.getElem?_finish_of_ne _ hm] at hr
      exact hr

/-- Every operation preserves `Agrees`. -/
theorem Agrees.step (h : Agrees s j) (op : Op) : Agrees (s.step op).1 (j.note s op) := by
  cases op with
  | reply outcome =>
    exact h.of_transport (h.covers.enqueue outcome) rfl rfl rfl (List.prefix_append _ _)
  | defer => exact h.of_transport h.covers.defer rfl rfl rfl (List.prefix_append _ _)
  | call request => exact h.step_call request
  | poll k => exact h.step_poll k
  | dropCall k => exact h.step_dropCall k
  | deliver d outcome => exact h.step_settle d _
  | dropDeferred d => exact h.step_settle d _

/-- `Agrees` holds after every list of operations. -/
theorem agrees_after (ops : List Op) : Agrees (after ops) (history ops) := by
  induction ops using List.reverseRecOn with
  | nil => exact agrees_empty
  | append_singleton ops op ih =>
    rw [after_concat, history_concat]
    exact ih.step op

/-- `poll` answers as the history says, until the call has ended. -/
theorem Agrees.answer_poll (h : Agrees s j) (hr : j.records[k]? = some r) :
    (s.step (.poll k)).2 = if r.ended then .missing else (j.note s (.poll k)).answer k := by
  have hdescribes := h.describes k r hr
  cases hcall : s.call? k with
  | none =>
    rw [hcall] at hdescribes
    have hended : r.ended = true := hdescribes
    rw [if_pos hended]
    simp [TransportCalls.step, hcall]
  | some call =>
    rw [hcall] at hdescribes
    obtain ⟨-, hshown, -⟩ := h.covers.poll hr hdescribes
    rw [hdescribes.not_ended, step_poll_of_call hcall, note_poll_of_call hcall, hshown]
    -- `finish` does not change the answer
    cases (s.transport.poll call).2 <;> rfl

/-! ## Calls of a page's user -/

/-- `op.action?` is the action of a page's user for `op`. The user does not drop calls. -/
def Op.action? : Op → Option Action
  | .reply outcome => some (.reply outcome)
  | .defer => some .defer
  | .call request => some (.newCall request)
  | .poll k => some (.pollCall k)
  | .dropCall _ => none
  | .deliver d outcome => some (.deliver d outcome)
  | .dropDeferred d => some (.dropDeferred d)

/-- `ofPage p` is the transport of `p` with the calls of its user. -/
def ofPage (p : Page) : TransportCalls :=
  { transport := p.transport, calls := p.calls }

theorem ofPage_settleDeferred (p : Page) (d : DeferredId) (status : Deferred) :
    ofPage (p.settleDeferred d status) =
      { ofPage p with transport := p.transport.settle d status } := by
  have hwake (q : Page) (t : PipelineId) : ofPage (q.wake t) = ofPage q := by
    unfold Page.wake
    split <;> rfl
  simp only [Page.settleDeferred]
  split
  · rw [hwake]
    rfl
  · rfl

/-- `a.result` is the result of an action with the answer `a`. -/
def Answer.result : Answer → Result
  | .done => .done
  | .missing => .missing
  | .waiting => .waiting
  | .finished (.ok response) => .response response
  | .finished (.error e) => .failed (.transport e)

theorem ofPage_pollUserCall (p : Page) (k : Nat) :
    ofPage (p.pollUserCall k).1 = ((ofPage p).step (.poll k)).1 ∧
      (p.pollUserCall k).2 = ((ofPage p).step (.poll k)).2.result := by
  unfold Page.pollUserCall
  cases hcall : (p.calls[k]?).join with
  | none => simp [step, call?, ofPage, hcall, Answer.result]
  | some call =>
    rw [step_poll_of_call (s := ofPage p) hcall]
    rcases hpoll : p.transport.poll call with ⟨transport, left | (e | response)⟩ <;>
      simp [ofPage, rest?, shown, Answer.result, hpoll]

/-- `ofPage` commutes with the actions of the user on the transport and on calls. -/
theorem ofPage_perform {op : Op} {a : Action} (h : op.action? = some a) (p : Page) :
    ofPage (p.perform a).1 = ((ofPage p).step op).1 := by
  have hsweep (q : Page) : ofPage q.sweep = ofPage q := by
    obtain ⟨_, _, hsweep⟩ := q.sweep_eq
    rw [hsweep]
    rfl
  have hperform : ofPage (p.perform a).1 =
      if p.offers a then ofPage (p.act a).1 else ofPage p := by
    unfold Page.perform
    split
    · exact hsweep _
    · rfl
  have hsettle (d : DeferredId) (status : Deferred) : ((ofPage p).settle d status).1 =
      if p.transport.isPending d then ofPage (p.settleDeferred d status) else ofPage p := by
    rw [ofPage_settleDeferred]
    exact apply_ite Prod.fst ..
  rw [hperform]
  cases op with
  | dropCall k => cases h
  | poll k =>
    cases h
    exact (ofPage_pollUserCall p k).1
  | deliver d outcome =>
    cases h
    exact (hsettle d _).symm
  | dropDeferred d =>
    cases h
    exact (hsettle d _).symm
  | _ =>
    cases h
    rfl

theorem ofPage_performAll {ops : List Op} (h : ∀ op ∈ ops, op.action?.isSome = true) :
    ofPage (Page.performAll {} (ops.filterMap Op.action?)) = after ops := by
  induction ops using List.reverseRecOn with
  | nil => rfl
  | append_singleton ops op ih =>
    obtain ⟨a, ha⟩ := Option.isSome_iff_exists.mp (h op (by simp))
    have hactions : (ops ++ [op]).filterMap Op.action? = ops.filterMap Op.action? ++ [a] := by
      simp [ha]
    rw [hactions, Page.performAll, List.foldl_append, after_concat,
      ← ih fun op hop => h op (List.mem_append_left _ hop)]
    exact ofPage_perform ha _

/-- For every list of operations on a transport and its calls: the log has the requests of the calls
that were polled, in the order of their first polls. The calls that found a reply in the queue are
matched one to one with the replies in queue order, and the queue has the rest. A poll of a call
answers with the status of its own reply, or that there was none. A page whose user performs these
operations answers the same. -/
theorem replies_are_served_in_order (ops : List Op) :
    (after ops).transport.requests.map some =
      ((history ops).polled.map fun k => ((history ops).records[k]?).map (·.request)) ∧
    (history ops).polled.Nodup ∧
    (history ops).served.Sublist (history ops).polled ∧
    (history ops).served.length ≤ (history ops).replies.length ∧
    (after ops).transport.queue = (history ops).replies.drop (history ops).served.length ∧
    (∀ k k' d, (history ops).reply? k = some (.deferred d) →
      (history ops).reply? k' = some (.deferred d) → k = k') ∧
    (∀ (k : Nat) (r : Record), (history ops).records[k]? = some r →
      ((after ops).step (.poll k)).2 =
        if r.ended then .missing else (history (ops ++ [.poll k])).answer k) ∧
    TransportError.noReply.reason = "no response queued" ∧
    TransportError.replyDropped.reason = "deferred response dropped" ∧
    ((∀ op ∈ ops, op.action?.isSome = true) →
      ofPage (Page.performAll {} (ops.filterMap Op.action?)) = after ops ∧
      ∀ k, ((Page.performAll {} (ops.filterMap Op.action?)).perform (.pollCall k)).2 =
        ((after ops).step (.poll k)).2.result) := by
  have h := agrees_after ops
  refine ⟨h.covers.requests, h.covers.polled, h.covers.served, h.covers.enough, h.covers.queue,
    fun k k' d => h.covers.eq_of_reply?, fun k r hr => ?_, rfl, rfl,
    fun hops => ⟨ofPage_performAll hops, fun k => ?_⟩⟩
  · rw [history_concat]
    exact h.answer_poll hr
  · rw [← ofPage_performAll hops]
    exact (ofPage_pollUserCall _ k).2

/-- Two calls are pending on deferred replies. The one whose reply is delivered first was dropped,
and a third call finds the queue empty. -/
theorem replies_are_served_in_order_crossed :
    ∃ ops request response, ops = [.defer, .defer, .call request, .call request, .call request,
        .poll 1, .poll 0, .dropCall 1, .deliver 0 (.error .bodyCut), .deliver 1 (.ok response)] ∧
      ((after ops).step (.poll 0)).2 = .finished (.ok response) ∧
      ((after ops).step (.poll 1)).2 = .missing ∧
      ((after ops).step (.poll 2)).2 = .finished (.error .noReply) := by
  refine ⟨_, ⟨"GET", "/", [], none⟩, ⟨⟨200, by decide⟩, ""⟩, rfl, ?_⟩
  have hpoll := (replies_are_served_in_order [.defer, .defer, .call ⟨"GET", "/", [], none⟩,
    .call ⟨"GET", "/", [], none⟩, .call ⟨"GET", "/", [], none⟩, .poll 1, .poll 0, .dropCall 1,
    .deliver 0 (.error .bodyCut), .deliver 1 (.ok ⟨⟨200, by decide⟩, ""⟩)]).2.2.2.2.2.2.1
  exact ⟨hpoll 0 ⟨_, false⟩ rfl, hpoll 1 ⟨_, true⟩ rfl, hpoll 2 ⟨_, false⟩ rfl⟩

end TransportCalls

end FormSwap
