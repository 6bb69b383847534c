import FormSwap.ManualClock
import Mathlib.Data.List.Nodup
import Mathlib.Data.List.Perm.Basic

/-!
# Sleeps and their waiters

A sleep belongs to its holder, and the clock has a list of waiters. `ManualClock.Tracks` states that
this list is right: each sleep that was polled and is not over has one waiter, with the sleep's
id, its deadline and its holder's waker, and there are no other waiters.

Main results:

- `Tracks.poll`, `Tracks.release`, `Tracks.advance`: the operations of a clock preserve `Tracks`
- `Tracks.mem_due`: `advance` returns every sleep that became due
- `Tracks.perm_waiters`, `Tracks.length_waiters`: there is one waiter for each pending sleep
-/

namespace FormSwap

namespace Duration

theorem le_add_right (a b : Duration) : a ≤ a + b := by
  rw [le_iff, nanos_add]
  omega

theorem le_trans {a b c : Duration} (h : a ≤ b) (h' : b ≤ c) : a ≤ c := by
  rw [le_iff] at *
  omega

theorem not_le {a b : Duration} : ¬ a ≤ b ↔ b < a := by
  rw [le_iff, lt_iff]
  omega

end Duration

namespace ManualClock

/-- `c.waiterFor waker sleep` is the waiter of a sleep that was polled and is not over. -/
def waiterFor (c : ManualClock) (waker : Option Nat) (sleep : Sleep) : Option Waiter :=
  if sleep.deadline ≤ c.now then none
  else sleep.id.map fun id => ⟨id, sleep.deadline, waker⟩

section WaiterFor

variable {c c' : ManualClock} {waker : Option Nat} {sleep : Sleep} {w : Waiter}

theorem waiterFor_eq_some_iff : c.waiterFor waker sleep = some w ↔
    ¬ sleep.deadline ≤ c.now ∧ sleep.id = some w.id ∧ w.deadline = sleep.deadline ∧
      w.waker = waker := by
  unfold waiterFor
  split
  · rename_i hover
    simp [hover]
  · rename_i hwaits
    obtain ⟨id, deadline, tag⟩ := w
    cases sleep.id with
    | none => simp
    | some t =>
      simp only [Option.map_some, Option.some.injEq, Waiter.mk.injEq]
      constructor
      · rintro ⟨rfl, rfl, rfl⟩
        exact ⟨hwaits, rfl, rfl, rfl⟩
      · rintro ⟨-, rfl, rfl, rfl⟩
        exact ⟨rfl, rfl, rfl⟩

theorem waiterFor_of_unregistered (ht : sleep.id = none) : c.waiterFor waker sleep = none := by
  simp [waiterFor, ht]

/-- `waiterFor` depends on the time only. -/
theorem waiterFor_congr (h : c'.now = c.now) :
    c'.waiterFor waker sleep = c.waiterFor waker sleep := by
  unfold waiterFor
  rw [h]

end WaiterFor

section Poll

variable {c : ManualClock} {sleep sleep' : Sleep} {waker : Option Nat}

/-- `c.left? sleep waker` is the sleep after a poll that is pending, and `none` if it is ready. -/
def left? (c : ManualClock) (sleep : Sleep) (waker : Option Nat) : Option Sleep :=
  if (c.poll sleep waker).2.2 then none else some (c.poll sleep waker).2.1

@[simp] theorem now_release (c : ManualClock) (sleep : Sleep) : (c.release sleep).now = c.now := by
  unfold release
  split <;> rfl

/-- `poll` preserves the time. -/
@[simp] theorem now_poll (c : ManualClock) (sleep : Sleep) (waker : Option Nat) :
    (c.poll sleep waker).1.now = c.now := by
  unfold poll
  split
  · exact now_release c sleep
  · split
    · unfold register
      split <;> rfl
    · rfl

/-- `poll` preserves the deadline. -/
@[simp] theorem deadline_poll (c : ManualClock) (sleep : Sleep) (waker : Option Nat) :
    (c.poll sleep waker).2.1.deadline = sleep.deadline := by
  unfold poll
  split
  · rfl
  · split <;> rfl

/-- `poll` is ready exactly if the deadline has passed. -/
theorem poll_over_iff : (c.poll sleep waker).2.2 = true ↔ sleep.deadline ≤ c.now := by
  unfold poll
  split
  · rename_i hover
    simp [hover]
  · rename_i hwaits
    split <;> simp [hwaits]

/-- A sleep that is pending after a poll has an id. -/
theorem waits_of_left? (h : c.left? sleep waker = some sleep') :
    sleep'.id.isSome = true ∧ ¬ sleep'.deadline ≤ c.now := by
  unfold left? poll at h
  split at h
  · cases h
  · rename_i hwaits
    split at h
    · rename_i id ht
      cases h
      exact ⟨by rw [ht]; rfl, hwaits⟩
    · cases h
      exact ⟨rfl, hwaits⟩

end Poll

/-- `c.Tracks tag held`: the waiters of `c` are those of the sleeps in `held`, where `tag x` is the
waker of the holder `x`. -/
structure Tracks {ι : Type} (c : ManualClock) (tag : ι → Option Nat) (held : ι → Option Sleep) :
    Prop where
  listed : ∀ w, w ∈ c.waiters ↔ ∃ x sleep, held x = some sleep ∧ c.waiterFor (tag x) sleep = some w
  nodup : (c.waiters.map (·.id)).Nodup
  issued : ∀ x sleep id, held x = some sleep → sleep.id = some id →
    id < c.nextId
  distinct : ∀ x y sleep sleep' id, held x = some sleep → held y = some sleep' →
    sleep.id = some id → sleep'.id = some id → x = y

namespace Tracks

variable {ι : Type} {c : ManualClock} {tag : ι → Option Nat} {held held' : ι → Option Sleep} {x : ι}
  {sleep : Sleep}

/-- `Tracks` holds without waiters if there are no sleeps. -/
theorem of_none (hw : c.waiters = []) (hheld : ∀ x, held x = none) : c.Tracks tag held where
  listed w := by simp [hw, hheld]
  nodup := by simp [hw]
  issued x sleep id hx := by simp [hheld] at hx
  distinct x y sleep sleep' id hx := by simp [hheld] at hx

/-- `Tracks` is preserved if a sleep without an id is added or dropped. -/
theorem of_unregistered (h : c.Tracks tag held) (hothers : ∀ y, y ≠ x → held' y = held y)
    (hbefore : ∀ sleep, held x = some sleep → sleep.id = none)
    (hafter : ∀ sleep, held' x = some sleep → sleep.id = none) : c.Tracks tag held' := by
  -- the holder of an id is not `x`
  have hother {y : ι} {n : Sleep} {t : Nat} (hy : held' y = some n) (ht : n.id = some t) :
      held y = some n := by
    by_cases hyx : y = x
    · subst hyx
      rw [hafter n hy] at ht
      cases ht
    · rw [← hothers y hyx, hy]
  refine ⟨fun w => ?_, h.nodup, fun y n t hy ht => h.issued y n t (hother hy ht) ht,
    fun y z n n' t hy hz ht ht' => h.distinct y z n n' t (hother hy ht) (hother hz ht') ht ht'⟩
  rw [h.listed]
  constructor
  · rintro ⟨y, n, hy, hw⟩
    have hyx : y ≠ x := by
      rintro rfl
      rw [waiterFor_of_unregistered (hbefore n hy)] at hw
      cases hw
    exact ⟨y, n, by rw [hothers y hyx, hy], hw⟩
  · rintro ⟨y, n, hy, hw⟩
    exact ⟨y, n, hother hy (waiterFor_eq_some_iff.mp hw).2.1, hw⟩

/-- `release` preserves `Tracks`. -/
theorem release (h : c.Tracks tag held) (hx : held x = some sleep) (hx' : held' x = none)
    (hothers : ∀ y, y ≠ x → held' y = held y) : (c.release sleep).Tracks tag held' := by
  cases ht : sleep.id with
  | none =>
    have hsame : c.release sleep = c := by simp [ManualClock.release, ht]
    rw [hsame]
    refine h.of_unregistered hothers (fun n hn => ?_) (fun n hn => ?_)
    · rw [hx] at hn
      cases hn
      exact ht
    · rw [hx'] at hn
      cases hn
  | some id =>
    have hclock : c.release sleep = c.unregister id := by simp [ManualClock.release, ht]
    rw [hclock]
    have hother {y : ι} {n : Sleep} (hy : held' y = some n) : y ≠ x ∧ held y = some n := by
      have hyx : y ≠ x := by
        rintro rfl
        rw [hx'] at hy
        cases hy
      exact ⟨hyx, by rw [← hothers y hyx, hy]⟩
    refine ⟨fun w => ?_, ?_, fun y n t hy => h.issued y n t (hother hy).2,
      fun y z n n' t hy hz => h.distinct y z n n' t (hother hy).2 (hother hz).2⟩
    · have hmem : w ∈ (c.unregister id).waiters ↔ w ∈ c.waiters ∧ w.id ≠ id := by
        simp [unregister]
      rw [hmem, h.listed]
      constructor
      · rintro ⟨⟨y, n, hy, hw⟩, hne⟩
        -- the removed id is that of the holder
        have hyx : y ≠ x := by
          rintro rfl
          rw [hx] at hy
          cases hy
          have hid := (waiterFor_eq_some_iff.mp hw).2.1
          rw [ht] at hid
          exact hne (Option.some.inj hid).symm
        exact ⟨y, n, by rw [hothers y hyx, hy], hw⟩
      · rintro ⟨y, n, hy, hw⟩
        obtain ⟨hyx, hheld⟩ := hother hy
        refine ⟨⟨y, n, hheld, hw⟩, fun heq => hyx ?_⟩
        have hid := (waiterFor_eq_some_iff.mp hw).2.1
        rw [heq] at hid
        exact h.distinct y x n sleep id hheld hx hid ht
    · exact (List.filter_sublist.map _).nodup h.nodup

/-- A sleep that has an id and is not over has its waiter. -/
theorem exists_waiter (h : c.Tracks tag held) (hx : held x = some sleep) {id : Nat}
    (ht : sleep.id = some id) (hwaits : ¬ sleep.deadline ≤ c.now) :
    ⟨id, sleep.deadline, tag x⟩ ∈ c.waiters :=
  (h.listed _).mpr ⟨x, sleep, hx, waiterFor_eq_some_iff.mpr ⟨hwaits, ht, rfl, rfl⟩⟩

/-- `poll` of a registered sleep that is not over changes nothing. -/
theorem poll_registered (h : c.Tracks tag held) (hx : held x = some sleep) {id : Nat}
    (ht : sleep.id = some id) (hwaits : ¬ sleep.deadline ≤ c.now) :
    c.poll sleep (tag x) = (c, sleep, false) := by
  have hlisted := h.exists_waiter hx ht hwaits
  -- the one waiter with the id is replaced by itself
  have hsame : c.waiters.map (fun v => if v.id = id then
      (⟨id, sleep.deadline, tag x⟩ : Waiter) else v) = c.waiters := by
    refine (List.map_congr_left fun v hv => ?_).trans (List.map_id _)
    split
    · rename_i hv'
      exact List.inj_on_of_nodup_map h.nodup hlisted hv hv'.symm
    · rfl
  have hany : (c.waiters.any fun v => v.id == id) = true :=
    List.any_eq_true.mpr ⟨_, hlisted, by simp⟩
  simp only [ManualClock.poll, if_neg hwaits, ht, register, hany, if_true, hsame]

/-- `poll` of a sleep without an id registers it with the next one. -/
theorem poll_fresh (h : c.Tracks tag held) (ht : sleep.id = none)
    (hwaits : ¬ sleep.deadline ≤ c.now) (hbefore : ∀ n, held x = some n → n.id = none)
    (hx' : held' x = some { sleep with id := some c.nextId })
    (hothers : ∀ y, y ≠ x → held' y = held y) :
    (c.poll sleep (tag x)).1.Tracks tag held' := by
  have hclock : (c.poll sleep (tag x)).1 = { c with
      nextId := c.nextId + 1
      waiters := c.waiters ++ [⟨c.nextId, sleep.deadline, tag x⟩] } := by
    simp [ManualClock.poll, if_neg hwaits, ht]
  rw [hclock]
  -- an id is the new one, or was there before
  have hcases {y : ι} {n : Sleep} {t : Nat} (hy : held' y = some n) (hn : n.id = some t) :
      y = x ∧ t = c.nextId ∨ y ≠ x ∧ held y = some n ∧ t < c.nextId := by
    by_cases hyx : y = x
    · subst hyx
      rw [hx'] at hy
      cases hy
      exact .inl ⟨rfl, (Option.some.inj hn).symm⟩
    · rw [hothers y hyx] at hy
      exact .inr ⟨hyx, hy, h.issued y n t hy hn⟩
  refine ⟨fun w => ?_, ?_, fun y n t hy hn => ?_, fun y z n n' t hy hz hn hn' => ?_⟩
  · rw [List.mem_append, List.mem_singleton, h.listed]
    constructor
    · rintro (⟨y, n, hy, hw⟩ | rfl)
      · have hyx : y ≠ x := by
          rintro rfl
          rw [waiterFor_of_unregistered (hbefore n hy)] at hw
          cases hw
        exact ⟨y, n, by rw [hothers y hyx, hy], (waiterFor_congr rfl).trans hw⟩
      · exact ⟨x, _, hx', waiterFor_eq_some_iff.mpr ⟨hwaits, rfl, rfl, rfl⟩⟩
    · rintro ⟨y, n, hy, hw⟩
      have hw : c.waiterFor (tag y) n = some w := (waiterFor_congr rfl).symm.trans hw
      obtain ⟨-, hid, hdeadline, hwaker⟩ := waiterFor_eq_some_iff.mp hw
      rcases hcases hy hid with ⟨rfl, hnew⟩ | ⟨-, hheld, -⟩
      · rw [hx'] at hy
        cases hy
        obtain ⟨t, d, waker⟩ := w
        cases hnew
        cases hdeadline
        cases hwaker
        exact .inr rfl
      · exact .inl ⟨y, n, hheld, hw⟩
  · rw [List.map_append]
    refine List.nodup_append.mpr ⟨h.nodup, by simp, fun t hold t' hnew => ?_⟩
    -- the new id is above all earlier ones
    obtain ⟨w, hw, rfl⟩ := List.mem_map.mp hold
    obtain ⟨y, n, hy, hwaiter⟩ := (h.listed w).mp hw
    have hlt := h.issued y n w.id hy (waiterFor_eq_some_iff.mp hwaiter).2.1
    simp only [List.map_cons, List.map_nil, List.mem_singleton] at hnew
    omega
  · rcases hcases hy hn with ⟨-, rfl⟩ | ⟨-, -, hlt⟩
    · exact Nat.lt_succ_self _
    · exact Nat.lt_succ_of_lt hlt
  · rcases hcases hy hn with ⟨rfl, hty⟩ | ⟨-, hheld, hlt⟩
    · rcases hcases hz hn' with ⟨rfl, -⟩ | ⟨-, -, hlt'⟩
      · rfl
      · omega
    · rcases hcases hz hn' with ⟨-, htz⟩ | ⟨-, hheld', -⟩
      · omega
      · exact h.distinct y z n n' t hheld hheld' hn hn'

/-- `poll` preserves `Tracks`. -/
theorem poll (h : c.Tracks tag held)
    (hx : held x = some sleep ∨ held x = none ∧ sleep.id = none)
    (hx' : held' x = c.left? sleep (tag x)) (hothers : ∀ y, y ≠ x → held' y = held y) :
    (c.poll sleep (tag x)).1.Tracks tag held' := by
  have hunregistered (ht : sleep.id = none) (n : Sleep) (hn : held x = some n) :
      n.id = none := by
    rcases hx with hheld | ⟨hnone, -⟩
    · rw [hheld] at hn
      cases hn
      exact ht
    · rw [hnone] at hn
      cases hn
  by_cases hover : sleep.deadline ≤ c.now
  · have hpoll : c.poll sleep (tag x) = (c.release sleep, { sleep with id := none }, true) := by
      simp [ManualClock.poll, hover]
    rw [left?, hpoll] at hx'
    rw [hpoll]
    rcases hx with hheld | ⟨hnone, ht⟩
    · exact h.release hheld hx' hothers
    · have hsame : c.release sleep = c := by simp [ManualClock.release, ht]
      rw [hsame]
      refine h.of_unregistered hothers (hunregistered ht) fun n hn => ?_
      rw [hx'] at hn
      cases hn
  · cases ht : sleep.id with
    | none =>
      refine h.poll_fresh ht hover (hunregistered ht) ?_ hothers
      rw [hx']
      simp [left?, ManualClock.poll, if_neg hover, ht]
    | some id =>
      rcases hx with hheld | ⟨-, hnone⟩
      · have hpoll := h.poll_registered hheld ht hover
        rw [left?, hpoll] at hx'
        rw [hpoll]
        have hsame : held' = held := by
          funext y
          by_cases hyx : y = x
          · subst hyx
            rw [hx', hheld]
            rfl
          · exact hothers y hyx
        rw [hsame]
        exact h
      · rw [ht] at hnone
        cases hnone

/-- `advance` preserves `Tracks`. -/
theorem advance (h : c.Tracks tag held) (span : Duration) :
    (c.advance span).1.Tracks tag held := by
  refine ⟨fun w => ?_, ?_, h.issued, h.distinct⟩
  · have hmem : w ∈ (c.advance span).1.waiters ↔
        w ∈ c.waiters ∧ ¬ w.deadline ≤ c.now + span := by
      simp [ManualClock.advance]
    rw [hmem, h.listed]
    constructor
    · rintro ⟨⟨y, n, hy, hw⟩, hlate⟩
      obtain ⟨-, hid, hdeadline, hwaker⟩ := waiterFor_eq_some_iff.mp hw
      rw [hdeadline] at hlate
      exact ⟨y, n, hy, waiterFor_eq_some_iff.mpr ⟨hlate, hid, hdeadline, hwaker⟩⟩
    · rintro ⟨y, n, hy, hw⟩
      obtain ⟨hlate, hid, hdeadline, hwaker⟩ := waiterFor_eq_some_iff.mp hw
      have hnow : ¬ n.deadline ≤ c.now :=
        fun hle => hlate (Duration.le_trans hle (Duration.le_add_right _ _))
      exact ⟨⟨y, n, hy, waiterFor_eq_some_iff.mpr ⟨hnow, hid, hdeadline, hwaker⟩⟩,
        hdeadline ▸ hlate⟩
  · exact (List.filter_sublist.map _).nodup h.nodup

/-- `advance` returns every sleep that became due. -/
theorem mem_due (h : c.Tracks tag held) (hx : held x = some sleep) {id : Nat}
    (ht : sleep.id = some id) (hbefore : ¬ sleep.deadline ≤ c.now) {span : Duration}
    (hafter : sleep.deadline ≤ c.now + span) :
    ⟨id, sleep.deadline, tag x⟩ ∈ (c.advance span).2 := by
  have hlisted := h.exists_waiter hx ht hbefore
  simpa [ManualClock.advance, dueAt] using ⟨hlisted, hafter⟩

/-- The waiters are those of the pending sleeps, each once. -/
theorem perm_waiters (h : c.Tracks tag held) {holders : List ι} (hnodup : holders.Nodup)
    (hholders : ∀ x sleep w, held x = some sleep → c.waiterFor (tag x) sleep = some w →
      x ∈ holders) :
    c.waiters.Perm (holders.filterMap fun x => (held x).bind (c.waiterFor (tag x))) := by
  have hsome {x : ι} {w : Waiter} : (held x).bind (c.waiterFor (tag x)) = some w ↔
      ∃ sleep, held x = some sleep ∧ c.waiterFor (tag x) sleep = some w := Option.bind_eq_some_iff
  refine (List.perm_ext_iff_of_nodup (h.nodup.of_map _) ?_).mpr fun w => ?_
  · refine hnodup.filterMap fun x y w hx hy => ?_
    obtain ⟨sleep, hheld, hw⟩ := hsome.mp hx
    obtain ⟨sleep', hheld', hw'⟩ := hsome.mp hy
    exact h.distinct x y sleep sleep' w.id hheld hheld' (waiterFor_eq_some_iff.mp hw).2.1
      (waiterFor_eq_some_iff.mp hw').2.1
  · rw [h.listed, List.mem_filterMap]
    constructor
    · rintro ⟨x, sleep, hx, hw⟩
      exact ⟨x, hholders x sleep w hx hw, hsome.mpr ⟨sleep, hx, hw⟩⟩
    · rintro ⟨x, -, hx⟩
      obtain ⟨sleep, hheld, hw⟩ := hsome.mp hx
      exact ⟨x, sleep, hheld, hw⟩

/-- There are as many waiters as pending sleeps. -/
theorem length_waiters (h : c.Tracks tag held) {holders : List ι} (hnodup : holders.Nodup)
    (hholders : ∀ x sleep w, held x = some sleep → c.waiterFor (tag x) sleep = some w →
      x ∈ holders) :
    c.waiters.length =
      holders.countP fun x => ((held x).bind (c.waiterFor (tag x))).isSome := by
  rw [(h.perm_waiters hnodup hholders).length_eq, List.length_filterMap_eq_countP]

end Tracks

end ManualClock

end FormSwap
