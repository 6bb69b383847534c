import FormSwap.Proofs.Tree
import Mathlib.Logic.Relation

/-!
# Moves

Every change of a page is a sequence of moves: changes that are one record update and preserve the
invariants. `Move` lists them with their preconditions, and `Course` is their closure under
composition. An invariant of all pages is proved move by move; that every action is a course is
proved once, in `Proofs.Course`.

Main definitions:

- `Kind`: the kind of a move, with the objects it is about
- `Move`: one move of a kind
- `Course S p q`: moves of the kinds in `S` lead from `p` to `q`
-/

namespace FormSwap

open FormSwap.Markup

/-! ## Live pipelines -/

/-- `s.isLive`: the pipeline has neither ended nor been aborted. -/
def Pipeline.isLive (s : Pipeline) : Bool :=
  s.isOpen && !s.aborted

theorem Pipeline.isLive_iff {s : Pipeline} :
    s.isLive = true ↔ s.isOpen = true ∧ s.aborted = false := by
  simp [isLive]

/-- `stage.isExchange`: the request has not been answered. -/
def Stage.isExchange : Stage → Bool
  | .accepted _ _ | .awaiting _ _ => true
  | .settling _ | .finished => false

/-- `stage.rank` is the position of a stage. -/
def Stage.rank : Stage → Nat
  | .accepted _ _ => 0
  | .awaiting _ _ => 1
  | .settling _ => 2
  | .finished => 3

/-- `stage.payload?` is the payload of a pipeline whose request has not been answered. -/
def Stage.payload? : Stage → Option Payload
  | .accepted _ payload => payload.toOption
  | .awaiting _ payload => some payload
  | .settling _ | .finished => none

theorem Stage.isExchange_iff {stage : Stage} : stage.isExchange = true ↔ stage.rank ≤ 1 := by
  cases stage <;> simp [isExchange, rank]

theorem Stage.rank_of_payload? {stage : Stage} {payload : Payload}
    (h : stage.payload? = some payload) : stage.rank ≤ 1 := by
  cases stage with
  | accepted | awaiting => simp [Stage.rank]
  | settling | finished => cases h

theorem Stage.rank_le_finished (stage : Stage) : stage.rank ≤ Stage.finished.rank := by
  cases stage <;> simp [rank]

/-- `pipe.Onward pipe'`: `pipe'` is a later state of `pipe`. -/
structure Pipeline.Onward (pipe pipe' : Pipeline) : Prop where
  owner : pipe'.owner = pipe.owner
  live : pipe'.isLive = true → pipe.isLive = true
  rank : pipe.stage.rank ≤ pipe'.stage.rank

theorem Pipeline.Onward.refl (pipe : Pipeline) : pipe.Onward pipe :=
  ⟨rfl, id, Nat.le_refl _⟩

theorem Pipeline.Onward.trans {a b c : Pipeline} (h : a.Onward b) (h' : b.Onward c) :
    a.Onward c :=
  ⟨h'.owner.trans h.owner, fun hc => h.live (h'.live hc), Nat.le_trans h.rank h'.rank⟩

namespace Page

/-- `p.LiveAt c s`: `s` is a live pipeline of `c`. -/
def LiveAt (p : Page) (c : ComponentId) (s : PipelineId) : Prop :=
  ∃ pipe, p.pipelines[s]? = some pipe ∧ pipe.owner = c ∧ pipe.isLive = true

/-- `p.Exchanging c s`: `s` is a live pipeline of `c` whose request has not been answered. -/
def Exchanging (p : Page) (c : ComponentId) (s : PipelineId) : Prop :=
  ∃ pipe, p.pipelines[s]? = some pipe ∧ pipe.owner = c ∧ pipe.aborted = false ∧
    pipe.stage.isExchange = true

instance (p : Page) (c : ComponentId) (s : PipelineId) : Decidable (p.Exchanging c s) :=
  decidable_of_iff ((p.pipelines[s]?).any fun pipe =>
      pipe.owner == c && !pipe.aborted && pipe.stage.isExchange) <| by
    simp [Exchanging, Option.any_eq_true, and_assoc]

theorem Exchanging.liveAt {p : Page} {c : ComponentId} {s : PipelineId}
    (h : p.Exchanging c s) : p.LiveAt c s := by
  obtain ⟨⟨owner, stage, aborted⟩, hpipe, hown, rfl, hstage⟩ := h
  refine ⟨_, hpipe, hown, ?_⟩
  cases stage <;> simp_all [Pipeline.isLive, Pipeline.isOpen, Stage.isExchange]

end Page

/-! ## Changes of a component -/

namespace Component

/-- `k.bound f l` is `k` with the form `f` and the listener `l`. -/
def bound (f : FormId) (l : ListenerRef) (k : Component) : Component :=
  { k with form := some f, listener := some l }

/-- `k.unbound` is `k` without a form. -/
def unbound (k : Component) : Component :=
  { k with form := none, listener := none }

/-- `k.retired` is `k` detached, without a form. -/
def retired (k : Component) : Component :=
  { k with detached := true, form := none, listener := none }

/-- `k.busy s` is `k` with the pipeline `s` in flight. -/
def busy (s : PipelineId) (k : Component) : Component :=
  { k with state := .submitting, inFlight := some s }

/-- `k.madeIdle` is `k` idle, with no pipeline in flight. -/
def madeIdle (k : Component) : Component :=
  { k with state := .idle, inFlight := none }

/-- `k.replacedBy r` is `k` with the further replacement `r`. -/
def replacedBy (r : ComponentId) (k : Component) : Component :=
  { k with replacements := k.replacements ++ [r] }

end Component

/-- `s.at stage` is the pipeline at a stage. -/
def Pipeline.at (stage : Stage) (s : Pipeline) : Pipeline :=
  { s with stage }

/-- `s.abort` is the pipeline aborted. -/
def Pipeline.abort (s : Pipeline) : Pipeline :=
  { s with aborted := true }

/-- `h.mark` is the host with the submitting attribute. -/
def Host.mark (h : Host) : Host :=
  { h with attributes := Page.setIn submittingAttribute "" h.attributes }

/-- `h.unmark` is the host without the submitting attribute. -/
def Host.unmark (h : Host) : Host :=
  { h with attributes := h.attributes.filter fun a => a.1 != submittingAttribute }

@[simp] theorem Host.marked_mark (h : Host) : h.mark.marked = true := by
  simp [Host.marked, Host.mark, Page.lookup_setIn_self]

@[simp] theorem Host.marked_unmark (h : Host) : h.unmark.marked = false := by
  simp [Host.marked, Host.unmark, Page.lookup_removed_self]

namespace Page

/-! ## Parts of a page after a change -/

/-- `p.hostsMarking h` is the hosts after an attempt to set the attribute of `h`. -/
def hostsMarking (p : Page) (h : HostId) : List Host :=
  if p.fails .setAttribute then p.hosts else p.hosts.modify h Host.mark

/-- `p.hostsUnmarking h` is the hosts after an attempt to remove the attribute of `h`. -/
def hostsUnmarking (p : Page) (h : HostId) : List Host :=
  if p.fails .removeAttribute then p.hosts else p.hosts.modify h Host.unmark

/-- `p.formsWithout l` is the forms without the listener `l`, if any. -/
def formsWithout (p : Page) : Option ListenerRef → List Form
  | some l => (p.removeListener l).forms
  | none => p.forms

/-- `p.formsWith f listener` is the forms with one more listener on `f`. -/
def formsWith (p : Page) (f : FormId) (listener : Listener) : List Form :=
  p.forms.modify f fun form =>
    { form with
      listeners := form.listeners ++ [listener]
      nextListener := form.nextListener + 1 }

/-- `p.nextListener f` is the next listener id of `f`. -/
def nextListener (p : Page) (f : FormId) : Nat :=
  ((p.forms[f]?).map (·.nextListener)).getD 0

/-- `p.pipelinesAborting s` is the pipelines after `s`, if any, was aborted. -/
def pipelinesAborting (p : Page) : Option PipelineId → List Pipeline
  | some s => p.pipelines.modify s Pipeline.abort
  | none => p.pipelines

/-- `p.wokenAborting s` is the woken pipelines after `s`, if any, was aborted. One that was never
polled is queued already. -/
def wokenAborting (p : Page) : Option PipelineId → List PipelineId
  | some s =>
    if p.spawned.contains s then p.woken
    else if p.woken.contains s then p.woken
    else p.woken ++ [s]
  | none => p.woken

@[simp] theorem length_hostsMarking (p : Page) (h : HostId) :
    (p.hostsMarking h).length = p.hosts.length := by
  unfold hostsMarking
  split <;> simp

@[simp] theorem length_hostsUnmarking (p : Page) (h : HostId) :
    (p.hostsUnmarking h).length = p.hosts.length := by
  unfold hostsUnmarking
  split <;> simp

/-- `p.clockDropping stage` is the clock after a pipeline at `stage` was dropped. -/
def clockDropping (p : Page) : Stage → ManualClock
  | .settling sleep => p.clock.release sleep
  | _ => p.clock

end Page

/-! ## The moves -/

/-- `Kind` is the kind of a move, with the objects it is about. -/
inductive Kind where
  /-- The tree is edited; `watch` allows to add and remove observers. -/
  | tree (watch : Bool)
  /-- The user writes the submitting attribute. -/
  | mark (h : HostId)
  /-- A component is created. -/
  | create (h : HostId)
  /-- A component is bound to a form. -/
  | bind (c : ComponentId)
  /-- A component releases its form to be bound to another one. -/
  | unbind (c : ComponentId)
  /-- The host of a component is replaced. -/
  | replace (c : ComponentId)
  /-- A component adopts a replacement. -/
  | adopt (c r : ComponentId)
  /-- A component is detached. -/
  | disconnect (c : ComponentId)
  /-- A component is dropped. -/
  | drop (c : ComponentId)
  /-- A component starts a pipeline. -/
  | start (c : ComponentId)
  /-- A component fails to start a pipeline. -/
  | refuse (c : ComponentId)
  /-- A pipeline sends, is pending or settles. -/
  | progress (s : PipelineId)
  /-- A pipeline ends. -/
  | finish (s : PipelineId)
  /-- An aborted pipeline ends. -/
  | dropAborted (s : PipelineId)
  /-- The queues are cleared for a run. -/
  | clear
  /-- A pipeline is woken. -/
  | wake
  /-- The clock is advanced, or the user polls a sleep. -/
  | clock
  /-- An operation is set to fail. -/
  | fault (f : Fault)
  /-- A notice is logged. -/
  | note
  /-- Anything else. -/
  | other

namespace Page

/-- `Move kind p q`: one move of the kind leads from `p` to `q`. -/
inductive Move : Kind → Page → Page → Prop where
  | tree {p q : Page} {watch : Bool} (e : TreeEdit p q watch) : Move (.tree watch) p q
  | mark (p : Page) (h : HostId) (change : List (String × String) → List (String × String)) :
    Move (.mark h) p
      (p.modifyHost h fun host => { host with attributes := change host.attributes })
  | create (p : Page) (h : HostId) (config : Config) (hh : h < p.hosts.length) :
    Move (.create h) p { p with components := p.components ++ [some { host := h, config }] }
  /-- A component that was not detached is attached. -/
  | bind {p : Page} {c : ComponentId} {k : Component} {f : FormId}
      (hk : p.component? c = some k) (hd : k.detached = false) (hl : k.listener = none)
      (hf : p.queryForm k.host = some f) :
    Move (.bind c) p { p with
      forms := p.formsWith f ⟨p.nextListener f, .component c⟩
      components := p.components.modify c
        (Option.map (Component.bound f ⟨f, p.nextListener f⟩)) }
  /-- A response replaces the contents of the host. -/
  | unbind {p : Page} {c : ComponentId} {k : Component} {s : PipelineId}
      (hk : p.component? c = some k) (hs : p.Exchanging c s) (hc : k.config.swap = .inner) :
    Move (.unbind c) p { p with
      forms := p.formsWithout k.listener
      components := p.components.modify c (Option.map Component.unbound) }
  | rebind {p : Page} {c : ComponentId} {k : Component} {s : PipelineId} {f : FormId}
      (hk : p.component? c = some k) (hs : p.Exchanging c s) (hc : k.config.swap = .inner)
      (hl : k.listener = none) (hf : p.queryForm k.host = some f) :
    Move (.bind c) p { p with
      forms := p.formsWith f ⟨p.nextListener f, .component c⟩
      components := p.components.modify c
        (Option.map (Component.bound f ⟨f, p.nextListener f⟩)) }
  /-- A response replaces the host. -/
  | replace {p : Page} {c : ComponentId} {k : Component} {s : PipelineId}
      (hk : p.component? c = some k) (hs : p.Exchanging c s) (hc : k.config.swap = .outer) :
    Move (.replace c) p { p with
      forms := p.formsWithout k.listener
      components := p.components.modify c (Option.map Component.retired) }
  | adopt {p : Page} {c r : ComponentId} {k : Component} {s : PipelineId}
      (hk : p.component? c = some k) (hs : p.Exchanging c s) (hc : k.config.swap = .outer)
      (hd : k.detached = true) (hcr : c < r) (hr : r < p.components.length) :
    Move (.adopt c r) p
      { p with components := p.components.modify c (Option.map (Component.replacedBy r)) }
  | disconnect {p : Page} {c : ComponentId} {k : Component} (hk : p.component? c = some k)
      (notices : List Notice) :
    Move (.disconnect c) p { p with
      hosts := if k.state = .submitting then p.hostsUnmarking k.host else p.hosts
      forms := p.formsWithout k.listener
      components := p.components.modify c (Option.map fun k => k.retired.madeIdle)
      pipelines := p.pipelinesAborting k.inFlight
      woken := p.wokenAborting k.inFlight
      notices }
  | drop {p : Page} {c : ComponentId} {k : Component} (hk : p.component? c = some k)
      (hh : p.held c = false) :
    Move (.drop c) p { p with
      forms := p.formsWithout k.listener
      components := p.components.set c none }
  | start {p : Page} {c : ComponentId} {k : Component} {f : FormId}
      (hk : p.component? c = some k) (hi : k.state = .idle) (hf : k.form = some f)
      (hs : p.fails .spawn = false) (payload : Except SubmitError Payload)
      (notices : List Notice) :
    Move (.start c) p { p with
      hosts := p.hostsMarking k.host
      components := p.components.modify c (Option.map (Component.busy p.pipelines.length))
      pipelines := p.pipelines ++ [{ owner := c, stage := .accepted f payload }]
      spawned := p.spawned ++ [p.pipelines.length]
      notices }
  | refuse {p : Page} {c : ComponentId} {k : Component} {f : FormId}
      (hk : p.component? c = some k) (hi : k.state = .idle) (hf : k.form = some f)
      (hs : p.fails .spawn = true) (notices : List Notice) :
    Move (.refuse c) p { p with
      hosts := { p with hosts := p.hostsMarking k.host }.hostsUnmarking k.host
      components := p.components.modify c (Option.map Component.madeIdle)
      notices }
  /-- The call is polled. -/
  | ask {p : Page} {c : ComponentId} {s : PipelineId} (hs : p.Exchanging c s) (call : Call) :
    Move (.progress s) p { p with transport := (p.transport.poll call).1 }
  /-- The reply is pending. -/
  | await {p : Page} {c : ComponentId} {s : PipelineId} (hs : p.Exchanging c s)
      (reply : DeferredId) (payload : Payload) :
    Move (.progress s) p { p with
      pipelines := p.pipelines.modify s (Pipeline.at (.awaiting (.awaiting reply) payload)) }
  /-- The settle delay has not passed. -/
  | sleep {p : Page} {c : ComponentId} {s : PipelineId} {pipe : Pipeline} {sleep : Sleep}
      (hpipe : p.pipelines[s]? = some pipe) (hown : pipe.owner = c) (hlive : pipe.isLive = true)
      (hsleep : pipe.stage = .settling sleep ∨ pipe.stage.isExchange = true ∧ sleep.id = none)
      (hnow : (p.clock.poll sleep (some s)).2.2 = false) :
    Move (.progress s) p { p with
      clock := (p.clock.poll sleep (some s)).1
      pipelines := p.pipelines.modify s
        (Pipeline.at (.settling (p.clock.poll sleep (some s)).2.1)) }
  /-- The settle delay has passed. -/
  | finish {p : Page} {c : ComponentId} {k : Component} {s : PipelineId} {pipe : Pipeline}
      {sleep : Sleep} (hpipe : p.pipelines[s]? = some pipe) (hown : pipe.owner = c)
      (hlive : pipe.isLive = true)
      (hsleep : pipe.stage = .settling sleep ∨ pipe.stage.isExchange = true ∧ sleep.id = none)
      (hk : p.component? c = some k) (hnow : (p.clock.poll sleep (some s)).2.2 = true)
      (notices : List Notice) :
    Move (.finish s) p { p with
      hosts := p.hostsUnmarking k.host
      components := p.components.modify c (Option.map Component.madeIdle)
      pipelines := p.pipelines.modify s (Pipeline.at .finished)
      clock := (p.clock.poll sleep (some s)).1
      notices }
  /-- The settle delay of a dropped component has passed. -/
  | finishGone {p : Page} {c : ComponentId} {s : PipelineId} {pipe : Pipeline} {sleep : Sleep}
      (hpipe : p.pipelines[s]? = some pipe) (hown : pipe.owner = c) (hlive : pipe.isLive = true)
      (hsleep : pipe.stage = .settling sleep ∨ pipe.stage.isExchange = true ∧ sleep.id = none)
      (hk : p.component? c = none) (hnow : (p.clock.poll sleep (some s)).2.2 = true) :
    Move (.finish s) p { p with
      pipelines := p.pipelines.modify s (Pipeline.at .finished)
      clock := (p.clock.poll sleep (some s)).1 }
  | dropAborted {p : Page} {s : PipelineId} {pipe : Pipeline}
      (hpipe : p.pipelines[s]? = some pipe) (ha : pipe.aborted = true) :
    Move (.dropAborted s) p { p with
      pipelines := p.pipelines.modify s (Pipeline.at .finished)
      clock := p.clockDropping pipe.stage }
  | clear (p : Page) : Move .clear p { p with woken := [], spawned := [] }
  | wake (p : Page) (woken : List PipelineId) (hw : ∀ s ∈ p.woken, s ∈ woken) :
    Move .wake p { p with woken }
  | advance (p : Page) (span : Duration) :
    Move .clock p { p with clock := (p.clock.advance span).1 }
  | pollSleep (p : Page) (sleep : Sleep) :
    Move .clock p { p with clock := (p.clock.poll sleep none).1 }
  | dropSleep (p : Page) (sleep : Sleep) : Move .clock p { p with clock := p.clock.release sleep }
  | fault (p : Page) (f : Fault) : Move (.fault f) p (p.setFault f true)
  | mend (p : Page) (f : Fault) : Move .other p (p.setFault f false)
  | note (p : Page) (notices : List Notice) : Move .note p { p with notices }
  | other (p : Page) (handles : List (Option ComponentId)) (transport : MockTransport)
      (sleeps : List (Option Sleep)) (calls : List (Option Call)) (heard : List Heard)
      (hlog : p.transport.requests <+: transport.requests) :
    Move .other p { p with handles, transport, sleeps, calls, heard }

/-! ## Courses -/

/-- `Course S p q`: moves of the kinds in `S` lead from `p` to `q`. -/
def Course (S : Kind → Prop) : Page → Page → Prop :=
  Relation.ReflTransGen fun p q => ∃ k, S k ∧ Move k p q

namespace Course

variable {S T : Kind → Prop} {p q r : Page}

theorem refl (p : Page) : Course S p p :=
  Relation.ReflTransGen.refl

theorem trans (h : Course S p q) (h' : Course S q r) : Course S p r :=
  Relation.ReflTransGen.trans h h'

theorem move {k : Kind} (m : Move k p q) (hk : S k) : Course S p q :=
  Relation.ReflTransGen.single ⟨k, hk, m⟩

theorem mono (h : Course S p q) (hST : ∀ k, S k → T k) : Course T p q := by
  refine Relation.ReflTransGen.mono (fun _ _ hstep => ?_) _ _ h
  obtain ⟨k, hk, m⟩ := hstep
  exact ⟨k, hST k hk, m⟩

/-- An invariant of every permitted move is preserved by a course. -/
theorem keeps {I : Page → Prop} (hI : ∀ k p q, S k → Move k p q → I p → I q)
    (h : Course S p q) (hp : I p) : I q := by
  induction h with
  | refl => exact hp
  | tail _ hstep ih =>
    obtain ⟨k, hk, m⟩ := hstep
    exact hI k _ _ hk m ih

/-- `foldl` over states with a page is a course if each step is. -/
theorem foldl_view {α σ : Type} (view : σ → Page) {step : σ → α → σ} {l : List α}
    (hstep : ∀ x, ∀ a ∈ l, Course S (view x) (view (step x a))) (x : σ) :
    Course S (view x) (view (l.foldl step x)) := by
  induction l generalizing x with
  | nil => exact .refl _
  | cons a rest ih =>
    exact (hstep x a (by simp)).trans (ih (fun y b hb => hstep y b (by simp [hb])) _)

/-- `foldl` over pages is a course if each step is. -/
theorem foldl {α : Type} {step : Page → α → Page} {l : List α}
    (hstep : ∀ q, ∀ a ∈ l, Course S q (step q a)) (p : Page) : Course S p (l.foldl step p) :=
  foldl_view id hstep p

end Course

end Page

end FormSwap
