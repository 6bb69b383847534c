import FormSwap.Proofs.Course
import FormSwap.Proofs.Sleeps
import FormSwap.Proofs.Slots
import Mathlib.Data.List.Range

/-!
# The manual clock and its sleeps

`ClockSleeps` is a `ManualClock` with all the sleeps created from it, used in any order: sleeps are
created, polled and dropped, and the clock is advanced. Whether a sleep is pending is recorded
twice, by the id of the sleep and by the waiter with that id. The two are updated at
different times: `advance` removes the due waiters while their sleeps keep the ids until the
next poll.

`History` is a specification without ids and waiters. It has for each sleep when it was created
and for how long, its last waker, whether it was polled, seen to be over or dropped, and how often
it was woken. The results state what the clock does as a function of the history.

Main definitions:

- `ClockSleeps.step`: one operation on a clock and its sleeps
- `ClockSleeps.History`: the specification state
- `ClockSleeps.after`, `ClockSleeps.history`: both states after a list of operations

Main results:

- `ManualClock.Tracks.poll_any`: `poll` preserves `Tracks`, with any waker
- `ClockSleeps.Agrees.step`: every operation preserves `Agrees`
- `ClockSleeps.Mirrors.perform`: the sleeps of a page's user behave as in `ClockSleeps`
- `ClockSleeps.waiters_are_the_pending_sleeps`: the waiters are the pending sleeps of the history
-/

namespace FormSwap

namespace ManualClock

/-! ## Polling with another waker -/

/-- Replacing the waiter with the id of `w` by `w` preserves the ids. -/
theorem ids_replaced (l : List Waiter) (w : Waiter) :
    (l.map fun v => if v.id = w.id then w else v).map (·.id) = l.map (·.id) := by
  rw [List.map_map]
  refine List.map_congr_left fun v _ => ?_
  rw [Function.comp_apply]
  split
  · rename_i heq
    exact heq.symm
  · rfl

namespace Tracks

variable {ι : Type} {c : ManualClock} {tag tag' : ι → Option Nat} {held held' : ι → Option Sleep}
  {x : ι}
  {sleep : Sleep}

/-- `Tracks` depends on the wakers of the sleeps with an id only. -/
theorem of_tag (h : c.Tracks tag held) (hx : ∀ sleep, held x = some sleep → sleep.id = none)
    (htag : ∀ y, y ≠ x → tag' y = tag y) : c.Tracks tag' held := by
  refine ⟨fun w => ?_, h.nodup, h.issued, h.distinct⟩
  have hsame {y : ι} {n : Sleep} (hy : held y = some n) :
      c.waiterFor (tag' y) n = c.waiterFor (tag y) n := by
    by_cases hyx : y = x
    · subst hyx
      rw [waiterFor_of_unregistered (hx n hy), waiterFor_of_unregistered (hx n hy)]
    · rw [htag y hyx]
  rw [h.listed]
  constructor
  · rintro ⟨y, n, hy, hw⟩
    exact ⟨y, n, hy, (hsame hy).trans hw⟩
  · rintro ⟨y, n, hy, hw⟩
    exact ⟨y, n, hy, (hsame hy).symm.trans hw⟩

/-- A waiter with the id of a sleep is the waiter of that sleep. -/
theorem waiterFor_of_id (h : c.Tracks tag held) {w : Waiter} (hw : w ∈ c.waiters)
    (hx : held x = some sleep) (ht : sleep.id = some w.id) :
    c.waiterFor (tag x) sleep = some w := by
  obtain ⟨y, n, hy, hwaiter⟩ := (h.listed w).mp hw
  obtain rfl := h.distinct y x n sleep w.id hy hx (waiterFor_eq_some_iff.mp hwaiter).2.1 ht
  rw [hx] at hy
  cases hy
  exact hwaiter

/-- Polling a registered sleep before its deadline replaces the waker and nothing else. -/
theorem poll_again (h : c.Tracks tag held) (hx : held x = some sleep) {id : Nat}
    (ht : sleep.id = some id) (hwaits : ¬ sleep.deadline ≤ c.now)
    (htag : ∀ y, y ≠ x → tag' y = tag y) : (c.poll sleep (tag' x)).1.Tracks tag' held := by
  have hlisted := h.exists_waiter hx ht hwaits
  have hany : (c.waiters.any fun v => v.id == id) = true :=
    List.any_eq_true.mpr ⟨_, hlisted, by simp⟩
  have hclock : (c.poll sleep (tag' x)).1 = { c with waiters := c.waiters.map fun v =>
      if v.id = id then ⟨id, sleep.deadline, tag' x⟩ else v } := by
    simp only [ManualClock.poll, if_neg hwaits, ht, register, hany, if_true]
  rw [hclock]
  refine ⟨fun w => ?_, ?_, h.issued, h.distinct⟩
  · have hsame {y : ι} {n : Sleep} : ({ c with waiters := c.waiters.map fun v =>
        if v.id = id then ⟨id, sleep.deadline, tag' x⟩ else v } : ManualClock).waiterFor
          (tag' y) n = c.waiterFor (tag' y) n := waiterFor_congr rfl
    simp only [hsame, List.mem_map]
    constructor
    · rintro ⟨v, hv, rfl⟩
      split
      · exact ⟨x, sleep, hx, waiterFor_eq_some_iff.mpr ⟨hwaits, ht, rfl, rfl⟩⟩
      · rename_i hother
        obtain ⟨y, n, hy, hwaiter⟩ := (h.listed v).mp hv
        have hyx : y ≠ x := by
          rintro rfl
          rw [hx] at hy
          cases hy
          have hid := (waiterFor_eq_some_iff.mp hwaiter).2.1
          rw [ht] at hid
          exact hother (Option.some.inj hid).symm
        exact ⟨y, n, hy, by rw [htag y hyx, hwaiter]⟩
    · rintro ⟨y, n, hy, hwaiter⟩
      obtain ⟨hlate, hid, hdeadline, hwaker⟩ := waiterFor_eq_some_iff.mp hwaiter
      by_cases hyx : y = x
      · subst hyx
        rw [hx] at hy
        cases hy
        rw [ht] at hid
        refine ⟨_, hlisted, ?_⟩
        rw [if_pos rfl, ← hwaker, ← hdeadline, Option.some.inj hid]
      · rw [htag y hyx] at hwaiter
        refine ⟨w, (h.listed w).mpr ⟨y, n, hy, hwaiter⟩, if_neg fun heq => hyx ?_⟩
        exact h.distinct y x n sleep id hy hx (heq ▸ hid) ht
  · rw [ids_replaced c.waiters ⟨id, sleep.deadline, tag' x⟩]
    exact h.nodup

/-- `poll` preserves `Tracks`, whether the sleep is over or not. -/
theorem poll_any (h : c.Tracks tag held) (hx : held x = some sleep)
    (hx' : held' x = some (c.poll sleep (tag' x)).2.1) (hothers : ∀ y, y ≠ x → held' y = held y)
    (htag : ∀ y, y ≠ x → tag' y = tag y) : (c.poll sleep (tag' x)).1.Tracks tag' held' := by
  have hheld {n : Sleep} (hn : held x = some n) : n = sleep := Option.some.inj (hn.symm.trans hx)
  by_cases hover : sleep.deadline ≤ c.now
  · have hpoll : c.poll sleep (tag' x) =
        (c.release sleep, { sleep with id := none }, true) := by
      simp [ManualClock.poll, hover]
    rw [hpoll] at hx' ⊢
    -- a ready poll is `release`, with the sleep kept without its id
    classical
    have hgone : (c.release sleep).Tracks tag (Function.update held x none) :=
      h.release hx (Function.update_self ..) fun y hy => Function.update_of_ne hy ..
    have hback : (c.release sleep).Tracks tag held' := by
      refine hgone.of_unregistered (x := x) (fun y hy => ?_) (fun n hn => ?_) (fun n hn => ?_)
      · rw [hothers y hy, Function.update_of_ne hy]
      · rw [Function.update_self] at hn
        cases hn
      · rw [hx'] at hn
        cases hn
        rfl
    refine hback.of_tag (x := x) (fun n hn => ?_) htag
    rw [hx'] at hn
    cases hn
    rfl
  · cases ht : sleep.id with
    | none =>
      have hunregistered : ∀ n, held x = some n → n.id = none := fun n hn => hheld hn ▸ ht
      refine (h.of_tag hunregistered htag).poll_fresh ht hover hunregistered ?_ hothers
      rw [hx']
      simp [ManualClock.poll, if_neg hover, ht]
    | some id =>
      have hsame : held' = held := by
        funext y
        by_cases hyx : y = x
        · subst hyx
          rw [hx', hx]
          simp [ManualClock.poll, if_neg hover, ht]
        · exact hothers y hyx
      rw [hsame]
      exact h.poll_again hx ht hover htag

end Tracks

end ManualClock

/-! ## Operations on a clock and its sleeps -/

/-- `ClockSleeps` is a clock with the sleeps created from it. The entry of a dropped sleep is
`none`. -/
structure ClockSleeps where
  clock : ManualClock := {}
  sleeps : List (Option Sleep) := []

namespace ClockSleeps

/-- `Op` is one operation. -/
inductive Op where
  /-- Creates a sleep without polling it. -/
  | sleep (length : Duration)
  /-- Polls a sleep with the given waker. -/
  | poll (n : Nat) (waker : Option Nat)
  | advance (span : Duration)
  | drop (n : Nat)

/-- `Answer` is the return value of an operation. -/
inductive Answer where
  | done
  /-- There is no such sleep, or it was dropped. -/
  | missing
  | waiting
  | over
  | woken (due : List Waiter)

/-- `s.sleep? n` is the sleep `n`, unless it was dropped. -/
def sleep? (s : ClockSleeps) (n : Nat) : Option Sleep :=
  (s.sleeps[n]?).join

/-- `s.idOf n` is the id of the sleep `n`, if it has one. -/
def idOf (s : ClockSleeps) (n : Nat) : Nat :=
  ((s.sleep? n).bind (·.id)).getD 0

/-- `s.step op` performs one operation. -/
def step (s : ClockSleeps) : Op → ClockSleeps × Answer
  | .sleep length => ({ s with sleeps := s.sleeps ++ [some (s.clock.sleep length)] }, .done)
  | .poll n waker =>
    match s.sleep? n with
    | none => (s, .missing)
    | some sleep =>
      let (clock, sleep, isOver) := s.clock.poll sleep waker
      ({ clock, sleeps := s.sleeps.set n (some sleep) }, if isOver then .over else .waiting)
  | .advance span =>
    let (clock, due) := s.clock.advance span
    ({ s with clock }, .woken due)
  | .drop n =>
    match s.sleep? n with
    | none => (s, .missing)
    | some sleep => ({ clock := s.clock.release sleep, sleeps := s.sleeps.set n none }, .done)

/-! ## Histories -/

/-- `Record` is what the history has of a sleep. -/
structure Record where
  made : Duration
  length : Duration
  /-- It was polled. -/
  polled : Bool := false
  /-- The waker of the last poll. -/
  waker : Option Nat := none
  /-- A poll was ready. -/
  seenOver : Bool := false
  dropped : Bool := false
  /-- The number of times that `advance` woke it. -/
  wakings : Nat := 0

/-- `r.deadline` is the deadline of the sleep. -/
def Record.deadline (r : Record) : Duration :=
  r.made + r.length

/-- `r.waits now`: the sleep was polled, no poll was ready, it was not dropped, and its deadline has
not passed. -/
def Record.waits (r : Record) (now : Duration) : Bool :=
  r.polled && !r.seenOver && !r.dropped && decide (now < r.deadline)

/-- `History` is the time that has passed, and a record for each sleep. -/
structure History where
  now : Duration := 0
  records : List Record := []

/-- `s.wakes span n`: advancing by `span` takes a due waiter with the id of the sleep `n`. -/
def wakes (s : ClockSleeps) (span : Duration) (n : Nat) : Bool :=
  (s.clock.advance span).2.any fun w => (s.sleep? n).bind (·.id) == some w.id

/-- `y.modify n change` changes the record of the sleep `n`. -/
def History.modify (y : History) (n : Nat) (change : Record → Record) : History :=
  { y with records := y.records.modify n change }

/-- `y.note s op` is the history after the operation `op` on `s`. -/
def History.note (y : History) (s : ClockSleeps) : Op → History
  | .sleep length => { y with records := y.records ++ [{ made := y.now, length }] }
  | .poll n waker =>
    match (s.step (.poll n waker)).2 with
    | .missing => y
    | .over => y.modify n fun r => { r with polled := true, waker, seenOver := true }
    | _ => y.modify n fun r => { r with polled := true, waker }
  | .advance span =>
    { now := y.now + span
      records := y.records.mapIdx fun n r =>
        if s.wakes span n then { r with wakings := r.wakings + 1 } else r }
  | .drop n =>
    match (s.step (.drop n)).2 with
    | .missing => y
    | _ => y.modify n fun r => { r with dropped := true }

/-- `run ops` is the state and the history after a list of operations. -/
def run (ops : List Op) : ClockSleeps × History :=
  ops.foldl (fun x op => ((x.1.step op).1, x.2.note x.1 op)) ({}, {})

/-- `after ops` is the state after a list of operations. -/
def after (ops : List Op) : ClockSleeps :=
  (run ops).1

/-- `history ops` is the history of a list of operations. -/
def history (ops : List Op) : History :=
  (run ops).2

theorem after_concat (ops : List Op) (op : Op) :
    after (ops ++ [op]) = ((after ops).step op).1 := by
  simp [after, run]

theorem history_concat (ops : List Op) (op : Op) :
    history (ops ++ [op]) = (history ops).note (after ops) op := by
  simp [history, after, run]

/-! ## Entries -/

variable {s : ClockSleeps} {y : History} {n : Nat} {sleep : Sleep} {r : Record}

theorem lt_of_sleep? (h : s.sleep? n = some sleep) : n < s.sleeps.length :=
  Slots.lt_length h

theorem sleep?_set (hn : n < s.sleeps.length) (clock : ManualClock) (slot : Option Sleep)
    (m : Nat) :
    sleep? { clock, sleeps := s.sleeps.set n slot } m = if m = n then slot else s.sleep? m :=
  Slots.join_getElem?_set hn slot m

/-- `y.waker n` is the waker of the last poll of the sleep `n`. -/
def History.waker (y : History) (n : Nat) : Option Nat :=
  (y.records[n]?).bind (·.waker)

theorem History.getElem?_modify (y : History) (n : Nat) (change : Record → Record) (m : Nat) :
    (y.modify n change).records[m]? =
      if m = n then (y.records[m]?).map change else y.records[m]? := by
  unfold modify
  split
  · rename_i heq
    rw [heq, List.getElem?_modify_eq]
    rfl
  · rename_i hne
    rw [List.getElem?_modify_ne _ _ (Ne.symm hne)]

theorem History.waker_modify_of_ne (y : History) (change : Record → Record) {m : Nat} (h : m ≠ n) :
    (y.modify n change).waker m = y.waker m := by
  rw [waker, getElem?_modify, if_neg h]
  rfl

/-! ## Agreement of state and history -/

/-- `r.Describes now slot`: the record `r` is right about the sleep in `slot`. -/
structure Record.Describes (r : Record) (now : Duration) (slot : Option Sleep) : Prop where
  dropped : slot = none ↔ r.dropped = true
  deadline : ∀ sleep, slot = some sleep → sleep.deadline = r.deadline
  /-- A sleep has an id from its first poll until a poll is ready, even after the clock has
  dropped its waiter. -/
  id : ∀ sleep, slot = some sleep → sleep.id.isSome = (r.polled && !r.seenOver)
  seenOver : r.seenOver = true → r.deadline ≤ now
  wakings : r.wakings ≤ 1
  woken : r.wakings ≠ 0 → r.deadline ≤ now

/-- `Agrees s y`: the records of `y` are right about the sleeps of `s`, and the clock tracks the
sleeps. -/
structure Agrees (s : ClockSleeps) (y : History) : Prop where
  now : s.clock.now = y.now
  length : y.records.length = s.sleeps.length
  describes : ∀ (n : Nat) (r : Record), y.records[n]? = some r → r.Describes y.now (s.sleep? n)
  tracks : s.clock.Tracks y.waker s.sleep?

theorem agrees_empty : Agrees {} {} where
  now := rfl
  length := rfl
  describes n r hr := by simp at hr
  tracks := .of_none rfl fun n => by simp [sleep?]

/-- Every sleep has a record that describes it. -/
theorem Agrees.exists_record (h : Agrees s y) (hsleep : s.sleep? n = some sleep) :
    ∃ r, y.records[n]? = some r ∧ r.Describes y.now (some sleep) := by
  have hlt : n < y.records.length := h.length ▸ lt_of_sleep? hsleep
  refine ⟨_, List.getElem?_eq_getElem hlt, ?_⟩
  rw [← hsleep]
  exact h.describes n _ (List.getElem?_eq_getElem hlt)

/-- `Agrees` is preserved if one sleep changes together with its record. -/
theorem Agrees.modify (h : Agrees s y) (hsleep : s.sleep? n = some sleep) {clock : ManualClock}
    {slot : Option Sleep} {change : Record → Record} (hnow : clock.now = s.clock.now)
    (hchange : ∀ r, r.Describes y.now (some sleep) → (change r).Describes y.now slot)
    (htracks : clock.Tracks (y.modify n change).waker
      (sleep? { clock, sleeps := s.sleeps.set n slot })) :
    Agrees { clock, sleeps := s.sleeps.set n slot } (y.modify n change) where
  now := hnow.trans h.now
  length := by simpa [History.modify] using h.length
  describes m r hr := by
    rw [History.getElem?_modify] at hr
    rw [sleep?_set (lt_of_sleep? hsleep)]
    split at hr
    · rename_i heq
      obtain ⟨old, hold, rfl⟩ := Option.map_eq_some_iff.mp hr
      rw [if_pos heq]
      apply hchange
      rw [← hsleep, ← heq]
      exact h.describes m old hold
    · rename_i hne
      rw [if_neg hne]
      exact h.describes m r hr
  tracks := htracks

/-! ## Operations preserve agreement -/

theorem Agrees.step_sleep (h : Agrees s y) (length : Duration) :
    Agrees (s.step (.sleep length)).1 (y.note s (.sleep length)) := by
  have hwaker : (y.note s (.sleep length)).waker = y.waker := by
    funext m
    unfold History.waker History.note
    by_cases hlt : m < y.records.length
    · rw [List.getElem?_append_left hlt]
    · rw [List.getElem?_append_right (Nat.not_lt.mp hlt), List.getElem?_eq_none (Nat.not_lt.mp hlt)]
      cases m - y.records.length <;> rfl
  have hsleep (m : Nat) : (s.step (.sleep length)).1.sleep? m =
      if m = s.sleeps.length then some (s.clock.sleep length) else s.sleep? m :=
    Slots.join_getElem?_concat s.sleeps _ m
  refine ⟨h.now, ?_, fun m r hr => ?_, ?_⟩
  · simp [History.note, step, h.length]
  · rw [hsleep]
    by_cases hlt : m < y.records.length
    · have hr : y.records[m]? = some r := (List.getElem?_append_left hlt).symm.trans hr
      rw [if_neg (by rw [← h.length]; omega)]
      exact h.describes m r hr
    · -- the record is the new one
      have hm : m < y.records.length + 1 := by
        simpa [History.note] using (List.getElem?_eq_some_iff.mp hr).1
      obtain rfl : m = y.records.length := by omega
      obtain rfl : { made := y.now, length } = r := by simpa [History.note] using hr
      rw [if_pos h.length]
      exact ⟨by simp, fun sleep hsleep => by cases hsleep; rw [ManualClock.sleep, h.now]; rfl,
        fun sleep hsleep => by cases hsleep; rfl, nofun, Nat.zero_le _, fun hne => absurd rfl hne⟩
  · rw [hwaker]
    refine h.tracks.of_unregistered (x := s.sleeps.length) (fun m hm => ?_) (fun sleep hn => ?_)
      (fun sleep hn => ?_)
    · rw [hsleep, if_neg hm]
    · exact absurd (lt_of_sleep? hn) (Nat.lt_irrefl _)
    · rw [hsleep, if_pos rfl] at hn
      cases hn
      rfl

theorem step_poll_of_sleep (hsleep : s.sleep? n = some sleep) (waker : Option Nat) :
    s.step (.poll n waker) =
      ({ clock := (s.clock.poll sleep waker).1
         sleeps := s.sleeps.set n (some (s.clock.poll sleep waker).2.1) },
        if sleep.deadline ≤ s.clock.now then .over else .waiting) := by
  have hover : (s.clock.poll sleep waker).2.2 = decide (sleep.deadline ≤ s.clock.now) := by
    rw [Bool.eq_iff_iff, ManualClock.poll_over_iff, decide_eq_true_iff]
  simp only [step, hsleep, hover, decide_eq_true_eq]

/-- `Describes` after a poll that is ready. -/
theorem Record.Describes.seenOver_of_poll (hr : r.Describes s.clock.now (some sleep))
    (hover : sleep.deadline ≤ s.clock.now) (waker : Option Nat) :
    Record.Describes { r with polled := true, waker, seenOver := true } s.clock.now
      (some (s.clock.poll sleep waker).2.1) := by
  have hpoll : (s.clock.poll sleep waker).2.1 = { sleep with id := none } := by
    simp [ManualClock.poll, hover]
  rw [hpoll]
  have hdeadline := hr.deadline sleep rfl
  exact ⟨by simpa using hr.dropped, fun sleep' h => by cases h; exact hdeadline,
    fun sleep' h => by cases h; simp, fun _ => hdeadline ▸ hover, hr.wakings, hr.woken⟩

/-- `Describes` after a poll that is pending. -/
theorem Record.Describes.waits_of_poll (hr : r.Describes s.clock.now (some sleep))
    (hwaits : ¬ sleep.deadline ≤ s.clock.now) (waker : Option Nat) :
    Record.Describes { r with polled := true, waker } s.clock.now
      (some (s.clock.poll sleep waker).2.1) := by
  have hdeadline := hr.deadline sleep rfl
  have hover : (s.clock.poll sleep waker).2.2 ≠ true :=
    fun h => hwaits (ManualClock.poll_over_iff.mp h)
  have hleft : s.clock.left? sleep waker = some (s.clock.poll sleep waker).2.1 := by
    rw [ManualClock.left?, if_neg hover]
  -- no earlier poll was ready, since the deadline has not passed
  have hnot : r.seenOver = false := by
    cases hr' : r.seenOver with
    | false => rfl
    | true => exact absurd (hdeadline ▸ hr.seenOver hr') hwaits
  refine ⟨by simpa using hr.dropped, fun sleep' h => ?_, fun sleep' h => ?_, hr.seenOver,
    hr.wakings, hr.woken⟩
  · cases h
    rw [ManualClock.deadline_poll]
    exact hdeadline
  · cases h
    rw [(ManualClock.waits_of_left? hleft).1, hnot]
    rfl

/-- `poll` preserves `Tracks` with the wakers of the history. -/
theorem Agrees.tracks_poll (h : Agrees s y) (hsleep : s.sleep? n = some sleep) {waker : Option Nat}
    {change : Record → Record} (hchange : ∀ r, (change r).waker = waker) :
    (s.clock.poll sleep waker).1.Tracks (y.modify n change).waker
      (sleep? { clock := (s.clock.poll sleep waker).1
                sleeps := s.sleeps.set n (some (s.clock.poll sleep waker).2.1) }) := by
  obtain ⟨r, hr, -⟩ := h.exists_record hsleep
  have htag : (y.modify n change).waker n = waker := by
    rw [History.waker, History.getElem?_modify, if_pos rfl, hr, Option.map_some, Option.bind_some,
      hchange]
  rw [← htag]
  refine h.tracks.poll_any hsleep ?_ (fun m hm => ?_) fun m hm => y.waker_modify_of_ne change hm
  · rw [sleep?_set (lt_of_sleep? hsleep), if_pos rfl]
  · rw [sleep?_set (lt_of_sleep? hsleep), if_neg hm]

theorem Agrees.step_poll (h : Agrees s y) (n : Nat) (waker : Option Nat) :
    Agrees (s.step (.poll n waker)).1 (y.note s (.poll n waker)) := by
  cases hsleep : s.sleep? n with
  | none =>
    have hstep : s.step (.poll n waker) = (s, .missing) := by simp [step, hsleep]
    rw [History.note, hstep]
    exact h
  | some sleep =>
    rw [History.note, step_poll_of_sleep hsleep]
    by_cases hover : sleep.deadline ≤ s.clock.now
    · simp only [if_pos hover]
      refine h.modify hsleep (ManualClock.now_poll ..) (fun r hr => ?_)
        (h.tracks_poll hsleep fun _ => rfl)
      rw [← h.now] at hr ⊢
      exact hr.seenOver_of_poll hover waker
    · simp only [if_neg hover]
      refine h.modify hsleep (ManualClock.now_poll ..) (fun r hr => ?_)
        (h.tracks_poll hsleep fun _ => rfl)
      rw [← h.now] at hr ⊢
      exact hr.waits_of_poll hover waker

theorem Agrees.step_drop (h : Agrees s y) (n : Nat) :
    Agrees (s.step (.drop n)).1 (y.note s (.drop n)) := by
  cases hsleep : s.sleep? n with
  | none =>
    have hstep : s.step (.drop n) = (s, .missing) := by simp [step, hsleep]
    rw [History.note, hstep]
    exact h
  | some sleep =>
    have hstep : s.step (.drop n) =
        ({ clock := s.clock.release sleep, sleeps := s.sleeps.set n none }, .done) := by
      simp [step, hsleep]
    rw [History.note, hstep]
    refine h.modify hsleep (ManualClock.now_release ..) (fun r hr => ?_) ?_
    · exact ⟨by simp, nofun, nofun, hr.seenOver, hr.wakings, hr.woken⟩
    · have hwaker : (y.modify n fun r => { r with dropped := true }).waker = y.waker := by
        funext m
        rw [History.waker, History.getElem?_modify]
        split
        · rw [Option.bind_map]
          rfl
        · rfl
      rw [hwaker]
      refine h.tracks.release hsleep ?_ fun m hm => ?_
      · rw [sleep?_set (lt_of_sleep? hsleep), if_pos rfl]
      · rw [sleep?_set (lt_of_sleep? hsleep), if_neg hm]

/-- A sleep that `advance` wakes was pending, and becomes due. -/
theorem Agrees.due_of_wakes (h : Agrees s y) {span : Duration} (hwakes : s.wakes span n = true) :
    ∃ sleep, s.sleep? n = some sleep ∧ ¬ sleep.deadline ≤ y.now ∧
      sleep.deadline ≤ y.now + span := by
  obtain ⟨w, hw, hid⟩ := List.any_eq_true.mp hwakes
  obtain ⟨sleep, hsleep, hid⟩ := Option.bind_eq_some_iff.mp (beq_iff_eq.mp hid)
  obtain ⟨hlisted, hdue⟩ : w ∈ s.clock.waiters ∧ w.deadline ≤ s.clock.now + span := by
    simpa [ManualClock.advance, ManualClock.dueAt] using hw
  obtain ⟨hwaits, -, hdeadline, -⟩ := ManualClock.waiterFor_eq_some_iff.mp
    (h.tracks.waiterFor_of_id hlisted hsleep hid)
  rw [h.now] at hwaits hdue
  exact ⟨sleep, hsleep, hwaits, hdeadline ▸ hdue⟩

theorem Agrees.step_advance (h : Agrees s y) (span : Duration) :
    Agrees (s.step (.advance span)).1 (y.note s (.advance span)) := by
  have hget (m : Nat) : (y.note s (.advance span)).records[m]? = (y.records[m]?).map fun r =>
      if s.wakes span m then { r with wakings := r.wakings + 1 } else r := by
    simp [History.note]
  have hwaker : (y.note s (.advance span)).waker = y.waker := by
    funext m
    rw [History.waker, hget, Option.bind_map, History.waker]
    congr 1
    funext r
    rw [Function.comp_apply]
    split <;> rfl
  have hlater {t : Duration} (ht : t ≤ y.now) : t ≤ y.now + span :=
    Duration.le_trans ht (Duration.le_add_right _ _)
  refine ⟨?_, ?_, fun m r hr => ?_, ?_⟩
  · simp [step, ManualClock.advance, History.note, h.now]
  · simpa [step, History.note] using h.length
  · rw [hget] at hr
    obtain ⟨old, hold, rfl⟩ := Option.map_eq_some_iff.mp hr
    have hd := h.describes m old hold
    split
    · rename_i hwakes
      obtain ⟨sleep, hsleep, hwaits, hdue⟩ := h.due_of_wakes hwakes
      rw [hd.deadline sleep hsleep] at hwaits hdue
      -- it was not woken before, since the deadline had not passed
      have hfirst : old.wakings = 0 := by
        by_contra hne
        exact hwaits (hd.woken hne)
      exact ⟨hd.dropped, hd.deadline, hd.id, fun hover => hlater (hd.seenOver hover),
        by simp [hfirst], fun _ => hdue⟩
    · exact ⟨hd.dropped, hd.deadline, hd.id, fun hover => hlater (hd.seenOver hover),
        hd.wakings, fun hne => hlater (hd.woken hne)⟩
  · rw [hwaker]
    exact h.tracks.advance span

/-- Every operation preserves `Agrees`. -/
theorem Agrees.step (h : Agrees s y) (op : Op) : Agrees (s.step op).1 (y.note s op) := by
  cases op with
  | sleep length => exact h.step_sleep length
  | poll n waker => exact h.step_poll n waker
  | advance span => exact h.step_advance span
  | drop n => exact h.step_drop n

/-- `Agrees` holds after every list of operations. -/
theorem agrees_after (ops : List Op) : Agrees (after ops) (history ops) := by
  induction ops using List.reverseRecOn with
  | nil => exact agrees_empty
  | append_singleton ops op ih =>
    rw [after_concat, history_concat]
    exact ih.step op

/-! ## The clock as a function of the history -/

/-- The waiter of a sleep, from its record. -/
theorem Agrees.waiterFor (h : Agrees s y) (hr : y.records[n]? = some r) :
    (s.sleep? n).bind (s.clock.waiterFor (y.waker n)) =
      if r.waits y.now then some ⟨s.idOf n, r.deadline, r.waker⟩ else none := by
  have hd := h.describes n r hr
  have hwaker : y.waker n = r.waker := by rw [History.waker, hr, Option.bind_some]
  rw [hwaker]
  cases hsleep : s.sleep? n with
  | none => simp [Record.waits, hd.dropped.mp hsleep]
  | some sleep =>
    have hkept : r.dropped = false := by
      rw [← Bool.not_eq_true, ← hd.dropped, hsleep]
      exact Option.some_ne_none sleep
    rw [Option.bind_some, ManualClock.waiterFor, hd.deadline sleep hsleep, h.now]
    have hid := hd.id sleep hsleep
    by_cases hend : r.deadline ≤ y.now
    · have hnot : ¬ y.now < r.deadline := fun hlt => Duration.not_le.mpr hlt hend
      simp [Record.waits, hend, hnot]
    · have hlt := Duration.not_le.mp hend
      cases ht : sleep.id with
      | none =>
        have hidle : (r.polled && !r.seenOver) = false := by rw [← hid, ht]; rfl
        simp [Record.waits, hidle]
      | some id =>
        have hwaits : (r.polled && !r.seenOver) = true := by rw [← hid, ht]; rfl
        simp [Record.waits, hwaits, hkept, hlt, hend, ClockSleeps.idOf, hsleep, ht]

/-- The waiters are those of the sleeps that wait, each once. -/
theorem Agrees.perm_waiters (h : Agrees s y) :
    s.clock.waiters.Perm ((y.records.zipIdx.filter fun x => x.1.waits y.now).map fun x =>
      ⟨s.idOf x.2, x.1.deadline, x.1.waker⟩) := by
  have hperm := h.tracks.perm_waiters (List.nodup_range (n := y.records.length))
    fun n sleep w hsleep _ => List.mem_range.mpr (h.length ▸ lt_of_sleep? hsleep)
  have hrange : List.range y.records.length = y.records.zipIdx.map Prod.snd := by
    rw [List.zipIdx_map_snd, List.range_eq_range']
  have hlist : (y.records.zipIdx.filterMap fun x =>
      (s.sleep? x.2).bind (s.clock.waiterFor (y.waker x.2))) =
      (y.records.zipIdx.filter fun x => x.1.waits y.now).map fun x =>
        ⟨s.idOf x.2, x.1.deadline, x.1.waker⟩ := by
    rw [← List.filterMap_eq_map, List.filterMap_filter]
    refine List.filterMap_congr fun x hx => ?_
    exact h.waiterFor (List.mem_zipIdx_iff_getElem?.mp hx)
  rw [hrange, List.filterMap_map] at hperm
  exact hlist ▸ hperm

/-- Every waiter has an id below `nextId`, and a deadline that has not passed. -/
theorem Agrees.of_mem_waiters (h : Agrees s y) {w : Waiter} (hw : w ∈ s.clock.waiters) :
    w.id < s.clock.nextId ∧ y.now < w.deadline := by
  obtain ⟨n, sleep, hsleep, hwaiter⟩ := (h.tracks.listed w).mp hw
  obtain ⟨hwaits, hid, hdeadline, -⟩ := ManualClock.waiterFor_eq_some_iff.mp hwaiter
  refine ⟨h.tracks.issued n sleep _ hsleep hid, ?_⟩
  rw [hdeadline, ← h.now]
  exact Duration.not_le.mp hwaits

/-- `poll` is ready exactly if the deadline has passed. -/
theorem Agrees.answer_poll (h : Agrees s y) (hr : y.records[n]? = some r)
    (hkept : r.dropped = false) (waker : Option Nat) :
    (s.step (.poll n waker)).2 = if r.deadline ≤ y.now then .over else .waiting := by
  have hd := h.describes n r hr
  cases hsleep : s.sleep? n with
  | none =>
    rw [hd.dropped.mp hsleep] at hkept
    cases hkept
  | some sleep => rw [step_poll_of_sleep hsleep, hd.deadline sleep hsleep, h.now]

theorem Agrees.answer_advance (h : Agrees s y) (span : Duration) :
    (s.step (.advance span)).2 = .woken (s.clock.waiters.filter fun w =>
      decide (y.now < w.deadline ∧ w.deadline ≤ y.now + span)) := by
  have hdue : s.clock.dueAt (s.clock.now + span) = s.clock.waiters.filter fun w =>
      decide (y.now < w.deadline ∧ w.deadline ≤ y.now + span) := by
    refine List.filter_congr fun w hw => ?_
    simp [h.now, (h.of_mem_waiters hw).2]
  exact congrArg Answer.woken hdue

/-! ## Sleeps of a page's user -/

/-- `op.action?` is the action of a page's user for `op`. The user polls without a waker. -/
def Op.action? : Op → Option Action
  | .sleep length => some (.newSleep length)
  | .poll n none => some (.pollSleep n)
  | .poll _ (some _) => none
  | .advance span => some (.advance span)
  | .drop n => some (.dropSleep n)

/-- `SameSleep now kept slot`: the page keeps the sleep of `slot`, or the sleep is over. -/
def SameSleep (now : Duration) (kept : Option Sleep) (slot : Option Sleep) : Prop :=
  kept = slot ∨ kept = none ∧
    ∃ sleep, slot = some sleep ∧ sleep.id = none ∧ sleep.deadline ≤ now

/-- `Mirrors s p`: the clock and the user's sleeps of `p` are those of `s`. -/
structure Mirrors (s : ClockSleeps) (p : Page) : Prop where
  clock : p.clock = s.clock
  length : p.sleeps.length = s.sleeps.length
  same : ∀ n, SameSleep s.clock.now (p.sleeps[n]?).join (s.sleep? n)

namespace Mirrors

variable {p : Page}

theorem sweep (h : Mirrors s p) : Mirrors s p.sweep := by
  obtain ⟨_, _, hsweep⟩ := p.sweep_eq
  rw [hsweep]
  exact ⟨h.clock, h.length, h.same⟩

/-- `Mirrors` is preserved if an entry changes on both sides. -/
theorem set (h : Mirrors s p) (hn : n < s.sleeps.length) {clock : ManualClock}
    (hnow : clock.now = s.clock.now) {kept slot : Option Sleep}
    (hsame : SameSleep s.clock.now kept slot) :
    Mirrors { clock, sleeps := s.sleeps.set n slot }
      { p with clock, sleeps := p.sleeps.set n kept } where
  clock := rfl
  length := by simpa using h.length
  same m := by
    rw [hnow, sleep?_set hn, Slots.join_getElem?_set (h.length ▸ hn)]
    split
    · exact hsame
    · exact h.same m

theorem newSleep (h : Mirrors s p) (length : Duration) :
    Mirrors (s.step (.sleep length)).1 (p.act (.newSleep length)).1 where
  clock := h.clock
  length := by simp [Page.act, step, h.length]
  same m := by
    have hslot : (s.step (.sleep length)).1.sleep? m =
        if m = s.sleeps.length then some (s.clock.sleep length) else s.sleep? m :=
      Slots.join_getElem?_concat s.sleeps _ m
    have hkept : ((p.act (.newSleep length)).1.sleeps[m]?).join =
        if m = p.sleeps.length then some (p.clock.sleep length) else (p.sleeps[m]?).join :=
      Slots.join_getElem?_concat p.sleeps _ m
    rw [hslot, hkept, h.length, h.clock]
    split
    · exact .inl rfl
    · exact h.same m

theorem sleep?_of_kept (h : Mirrors s p) (hkept : (p.sleeps[n]?).join = some sleep) :
    s.sleep? n = some sleep := by
  obtain hsame | ⟨hnone, -⟩ := h.same n
  · exact hsame.symm.trans hkept
  · rw [hkept] at hnone
    cases hnone

theorem over_of_gone (h : Mirrors s p) (hkept : (p.sleeps[n]?).join = none)
    (hsleep : s.sleep? n = some sleep) : sleep.id = none ∧ sleep.deadline ≤ s.clock.now := by
  obtain hsame | ⟨-, gone, hgone, hend⟩ := h.same n
  · rw [hkept, hsleep] at hsame
    cases hsame
  · rw [hsleep] at hgone
    cases hgone
    exact hend

/-- `Mirrors` is preserved if only `s` polls or drops a sleep that the page does not keep. -/
theorem of_gone (h : Mirrors s p) (hkept : (p.sleeps[n]?).join = none)
    (hsleep : s.sleep? n = some sleep)
    {slot : Option Sleep} (hslot : slot = none ∨ slot = some sleep) :
    Mirrors { clock := s.clock.release sleep, sleeps := s.sleeps.set n slot } p := by
  obtain ⟨hid, hend⟩ := h.over_of_gone hkept hsleep
  have hrelease : s.clock.release sleep = s.clock := by simp [ManualClock.release, hid]
  have hsame : SameSleep s.clock.now none slot := by
    obtain rfl | rfl := hslot
    · exact .inl rfl
    · exact .inr ⟨rfl, sleep, rfl, hid, hend⟩
  have hset := h.set (lt_of_sleep? hsleep) (congrArg (·.now) h.clock) hsame
  rw [Slots.set_none hkept, h.clock] at hset
  rw [hrelease]
  exact ⟨h.clock, hset.length, hset.same⟩

/-- `pollUserSleep` of a sleep that the page keeps. -/
private theorem pollUserSleep_of_kept (hkept : (p.sleeps[n]?).join = some sleep) :
    (p.pollUserSleep n).1 =
      { p with
        clock := (p.clock.poll sleep none).1
        sleeps := p.sleeps.set n
          (if sleep.deadline ≤ p.clock.now then none
            else some (p.clock.poll sleep none).2.1) } := by
  have hover : (p.clock.poll sleep none).2.2 = true ↔ sleep.deadline ≤ p.clock.now :=
    ManualClock.poll_over_iff
  simp only [Page.pollUserSleep, hkept]
  rcases hpoll : p.clock.poll sleep none with ⟨clock, left, _ | _⟩ <;> rw [hpoll] at hover
  · rw [if_neg (by simpa using hover)]
  · rw [if_pos (by simpa using hover)]

theorem poll (h : Mirrors s p) (n : Nat) :
    Mirrors (s.step (.poll n none)).1 (p.pollUserSleep n).1 := by
  cases hkept : (p.sleeps[n]?).join with
  | none =>
    have hpage : p.pollUserSleep n = (p, .missing) := by simp [Page.pollUserSleep, hkept]
    rw [hpage]
    cases hsleep : s.sleep? n with
    | none =>
      have hstep : s.step (.poll n none) = (s, .missing) := by simp [step, hsleep]
      rw [hstep]
      exact h
    | some sleep =>
      obtain ⟨hid, hend⟩ := h.over_of_gone hkept hsleep
      have hpoll : s.clock.poll sleep none = (s.clock.release sleep, sleep, true) := by
        simp [ManualClock.poll, hend, ← hid]
      rw [step_poll_of_sleep hsleep, hpoll]
      exact h.of_gone hkept hsleep (.inr rfl)
  | some sleep =>
    have hsleep := h.sleep?_of_kept hkept
    rw [step_poll_of_sleep hsleep, pollUserSleep_of_kept hkept, h.clock]
    refine h.set (lt_of_sleep? hsleep) (ManualClock.now_poll ..) ?_
    split
    · rename_i hend
      exact .inr ⟨rfl, _, rfl, by simp [ManualClock.poll, hend], by rwa [ManualClock.deadline_poll]⟩
    · exact .inl rfl

theorem drop (h : Mirrors s p) (n : Nat) :
    Mirrors (s.step (.drop n)).1 (p.dropUserSleep n).1 := by
  simp only [Page.dropUserSleep, step]
  cases hkept : (p.sleeps[n]?).join with
  | none =>
    cases hsleep : s.sleep? n with
    | none => exact h
    | some sleep => exact h.of_gone hkept hsleep (.inl rfl)
  | some sleep =>
    have hsleep := h.sleep?_of_kept hkept
    simp only [hsleep, h.clock]
    exact h.set (lt_of_sleep? hsleep) (ManualClock.now_release ..) (.inl rfl)

theorem advance (h : Mirrors s p) (span : Duration) :
    Mirrors (s.step (.advance span)).1 (p.advance span) := by
  obtain ⟨_, hadvance⟩ := p.advance_eq span
  rw [hadvance, h.clock]
  refine ⟨rfl, h.length, fun n => ?_⟩
  obtain hsame | ⟨hkept, sleep, hsleep, hid, hend⟩ := h.same n
  · exact .inl hsame
  · exact .inr ⟨hkept, sleep, hsleep, hid, Duration.le_trans hend (Duration.le_add_right _ _)⟩

/-- `Mirrors` is preserved by the actions of the user on the clock and on sleeps. -/
theorem perform {op : Op} {a : Action} (h : Mirrors s p) (ha : op.action? = some a) :
    Mirrors (s.step op).1 (p.perform a).1 := by
  have hoffers : p.offers a = true := by
    rcases op with length | ⟨n, _ | _⟩ | span | n <;> cases ha <;> rfl
  rw [Page.perform, if_pos hoffers]
  refine sweep ?_
  cases op with
  | sleep length =>
    cases ha
    exact h.newSleep length
  | poll n waker =>
    cases waker with
    | some => cases ha
    | none =>
      cases ha
      exact h.poll n
  | advance span =>
    cases ha
    exact h.advance span
  | drop n =>
    cases ha
    exact h.drop n

end Mirrors

theorem mirrors_performAll {ops : List Op} (h : ∀ op ∈ ops, op.action?.isSome = true) :
    Mirrors (after ops) (Page.performAll {} (ops.filterMap Op.action?)) := by
  induction ops using List.reverseRecOn with
  | nil => exact ⟨rfl, rfl, fun n => .inl rfl⟩
  | append_singleton ops op ih =>
    obtain ⟨a, ha⟩ := Option.isSome_iff_exists.mp (h op (by simp))
    have hactions : (ops ++ [op]).filterMap Op.action? = ops.filterMap Op.action? ++ [a] := by
      simp [ha]
    rw [hactions, Page.performAll, List.foldl_append, after_concat]
    exact (ih fun op hop => h op (List.mem_append_left _ hop)).perform ha

/-- For every list of operations on a clock and its sleeps: the waiters are the sleeps that wait by
the history, each once and with an id of its own. A poll is ready exactly if the sleep's deadline
has passed. `advance` wakes the waiters whose deadline passes then, and wakes no sleep a second
time. A sleep that is polled again before its deadline finds its waiter still registered. The clock
of a page whose user performs these operations is the same. -/
theorem waiters_are_the_pending_sleeps (ops : List Op) :
    (after ops).clock.now = (history ops).now ∧
    (after ops).clock.waiters.Perm
      (((history ops).records.zipIdx.filter fun x => x.1.waits (history ops).now).map fun x =>
        ⟨(after ops).idOf x.2, x.1.deadline, x.1.waker⟩) ∧
    ((after ops).clock.waiters.map (·.id)).Nodup ∧
    (∀ w ∈ (after ops).clock.waiters, w.id < (after ops).clock.nextId) ∧
    (∀ (n : Nat) (r : Record) (waker : Option Nat), (history ops).records[n]? = some r →
      r.dropped = false → ((after ops).step (.poll n waker)).2 =
        if r.made + r.length ≤ (history ops).now then .over else .waiting) ∧
    (∀ span, ((after ops).step (.advance span)).2 =
      .woken ((after ops).clock.waiters.filter fun w =>
        decide ((history ops).now < w.deadline ∧ w.deadline ≤ (history ops).now + span))) ∧
    (∀ r ∈ (history ops).records, r.wakings ≤ 1) ∧
    (∀ n sleep id, (after ops).sleep? n = some sleep → sleep.id = some id →
      (history ops).now < sleep.deadline → ∃ w ∈ (after ops).clock.waiters, w.id = id) ∧
    ((∀ op ∈ ops, op.action?.isSome = true) →
      (Page.performAll {} (ops.filterMap Op.action?)).clock = (after ops).clock) := by
  have h := agrees_after ops
  refine ⟨h.now, h.perm_waiters, h.tracks.nodup, fun w hw => (h.of_mem_waiters hw).1,
    fun n r waker hr hkept => h.answer_poll hr hkept waker, h.answer_advance, fun r hr => ?_,
    fun n sleep id hsleep hid hwaits => ?_, fun hops => (mirrors_performAll hops).clock⟩
  · obtain ⟨n, hn⟩ := List.getElem?_of_mem hr
    exact (h.describes n r hn).wakings
  · rw [← h.now] at hwaits
    exact ⟨_, h.tracks.exists_waiter hsleep hid (Duration.not_le.mpr hwaits), rfl⟩

/-- The shorter of two polled sleeps was woken. It still has its id, and only the other one has
a waiter. -/
theorem waiters_are_the_pending_sleeps_half_woken :
    ∃ ops, ops = [.sleep ⟨2⟩, .sleep ⟨5⟩, .poll 1 (some 7), .poll 0 none, .advance ⟨3⟩] ∧
      (after ops).sleep? 0 = some ⟨⟨2⟩, some 1⟩ ∧
      (after ops).clock.waiters.Perm [⟨0, ⟨5⟩, some 7⟩] ∧
      ((after ops).step (.poll 0 none)).2 = .over ∧
      ((after ops).step (.poll 1 none)).2 = .waiting ∧
      ∃ w ∈ (after ops).clock.waiters, w.id = 0 := by
  refine ⟨_, rfl, rfl, ?_⟩
  have hwait := waiters_are_the_pending_sleeps
    [.sleep ⟨2⟩, .sleep ⟨5⟩, .poll 1 (some 7), .poll 0 none, .advance ⟨3⟩]
  obtain ⟨-, hperm, -, -, hpoll, -, -, hlisted, -⟩ := hwait
  exact ⟨hperm, hpoll 0 ⟨⟨0⟩, ⟨2⟩, true, none, false, false, 1⟩ none rfl rfl,
    hpoll 1 ⟨⟨0⟩, ⟨5⟩, true, some 7, false, false, 0⟩ none rfl rfl,
    hlisted 1 ⟨⟨5⟩, some 0⟩ 0 rfl rfl (by decide)⟩

end ClockSleeps

end FormSwap
