import FormSwap.Duration

/-!
# Manual clock

`ManualClock` is virtual time that starts at zero and moves only on `advance`. A `Sleep` has a fixed
deadline. It registers a `Waiter` when it is first polled before its deadline, and stays registered
until it completes or is dropped. `advance` removes the waiters that became due, in the order of
their registration.
-/

namespace FormSwap

/-- `Waiter` is the registration of a `Sleep` that is pending. -/
structure Waiter where
  id : Nat
  deadline : Duration
  /-- The pipeline to wake, or `none` for a sleep that was polled outside of a pipeline. -/
  waker : Option Nat
deriving DecidableEq, Repr

/-- `ManualClock` holds the current time and the registered waiters. -/
structure ManualClock where
  now : Duration := 0
  nextId : Nat := 0
  waiters : List Waiter := []
deriving DecidableEq, Repr

/-- `Sleep` is a timer future: its deadline, and its id once it is registered. -/
structure Sleep where
  deadline : Duration
  id : Option Nat := none
deriving DecidableEq, Repr

namespace ManualClock

/-- `c.sleep length` is a new `Sleep` that completes `length` after `c.now`. -/
def sleep (c : ManualClock) (length : Duration) : Sleep :=
  { deadline := c.now + length }

/-- `c.isOver n` holds if the deadline of `n` has passed. -/
def isOver (c : ManualClock) (n : Sleep) : Bool :=
  decide (n.deadline ≤ c.now)

/-- `c.unregister id` removes the waiter with this id. -/
def unregister (c : ManualClock) (id : Nat) : ManualClock :=
  { c with waiters := c.waiters.filter fun w => w.id != id }

/-- `c.release n` is the clock after `n` was dropped: its waiter is removed, if it has one. -/
def release (c : ManualClock) (n : Sleep) : ManualClock :=
  match n.id with
  | some id => c.unregister id
  | none => c

/-- `c.register w` replaces the waiter with the id of `w`, or appends `w` if there is none. -/
def register (c : ManualClock) (w : Waiter) : ManualClock :=
  if c.waiters.any fun v => v.id == w.id then
    { c with waiters := c.waiters.map fun v => if v.id = w.id then w else v }
  else { c with waiters := c.waiters ++ [w] }

/-- `c.poll n waker` polls the sleep `n`. It returns the clock and the sleep afterwards, and `true`
if the sleep is complete. A sleep that is pending is registered with `waker`. -/
def poll (c : ManualClock) (n : Sleep) (waker : Option Nat) : ManualClock × Sleep × Bool :=
  if n.deadline ≤ c.now then (c.release n, { n with id := none }, true)
  else
    match n.id with
    | some id => (c.register ⟨id, n.deadline, waker⟩, n, false)
    | none =>
      ({ c with
          nextId := c.nextId + 1
          waiters := c.waiters ++ [⟨c.nextId, n.deadline, waker⟩] },
        { n with id := some c.nextId }, false)

/-- `c.dueAt time` is the list of waiters whose deadline is at most `time`. -/
def dueAt (c : ManualClock) (time : Duration) : List Waiter :=
  c.waiters.filter fun w => decide (w.deadline ≤ time)

/-- `c.advance span` moves time forward. It returns the clock without the waiters that became due,
and these waiters. -/
def advance (c : ManualClock) (span : Duration) : ManualClock × List Waiter :=
  let now := c.now + span
  ({ c with now, waiters := c.waiters.filter fun w => !decide (w.deadline ≤ now) }, c.dueAt now)

end ManualClock

end FormSwap
