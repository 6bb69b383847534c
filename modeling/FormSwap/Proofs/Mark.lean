import FormSwap.Proofs.InFlight

/-!
# The submitting attribute

While a component has a live pipeline, its host has the submitting attribute, and at no other time.
This assumes that no other component is on the host, that the host did not have the attribute
before, that the user does not write it, and that attribute operations do not fail.

Main results:

- `Move.markInStep`: every move preserves `MarkInStep`
- `submitting_iff_marked`: a component is submitting exactly if its `inFlight` is set, if it has a
  live pipeline, and if its host has the attribute
-/

namespace FormSwap

/-- `a.sparesMark`: the action does not write the submitting attribute, and does not make attribute
operations fail. -/
def Action.sparesMark : Action → Bool
  | .setAttribute _ name _ | .removeAttribute _ name => name != submittingAttribute
  | .setFault .setAttribute on | .setFault .removeAttribute on => !on
  | _ => true

namespace Page

/-- `p.SoleOn h c`: no component other than `c` is on `h`. -/
def SoleOn (p : Page) (h : HostId) (c : ComponentId) : Prop :=
  ∀ (d : ComponentId) (k : Component), p.component? d = some k → k.host = h → d = c

/-- `p.AttributesWork`: attribute operations do not fail. -/
def AttributesWork (p : Page) : Prop :=
  p.fails .setAttribute = false ∧ p.fails .removeAttribute = false

/-! ## One component and its host -/

/-- `p.MarkInStep c h`: `c` is alone on `h`, which has the attribute exactly if `c` is
submitting. -/
structure MarkInStep (p : Page) (c : ComponentId) (h : HostId) : Prop where
  host : h < p.hosts.length
  placed : c < p.components.length
  mounted : ∀ k, p.component? c = some k → k.host = h
  sole : p.SoleOn h c
  works : p.AttributesWork
  marked : ∀ k, p.component? c = some k → (k.state = .submitting ↔ p.marked h = true)

namespace MarkInStep

variable {p q : Page} {c d : ComponentId} {h : HostId}

/-- `MarkInStep` is preserved if its statement on the attribute is. -/
private theorem surroundings {kind : Kind} (inv : p.MarkInStep c h) (move : Move kind p q)
    (hkind : kind ≠ .create h) (hworks : q.AttributesWork)
    (hmarked : ∀ k, q.component? c = some k → (k.state = .submitting ↔ q.marked h = true)) :
    q.MarkInStep c h where
  host := Nat.lt_of_lt_of_le inv.host move.hosts_le
  placed := Nat.lt_of_lt_of_le inv.placed move.components_le
  mounted k' hk' := by
    rcases move.origin hk' with ⟨k, hk, hsame⟩ | ⟨hc, -, -⟩
    · exact hsame.1.trans (inv.mounted k hk)
    · exact absurd inv.placed (by rw [hc]; exact Nat.lt_irrefl _)
  sole d k' hk' hd := by
    rcases move.origin hk' with ⟨k, hk, hsame⟩ | ⟨-, hnew, -⟩
    · exact inv.sole d k hk (hsame.1.symm.trans hd)
    · exact absurd (by rw [hnew, hd]) hkind
  works := hworks
  marked := hmarked

/-- `MarkInStep` is preserved if a component changes its state and the attribute of its host. -/
private theorem acting (inv : p.MarkInStep c h) {k : Component} (hk : p.component? d = some k)
    {change : Component → Component} (on : Bool)
    (hc : q.components = p.components.modify d (Option.map change))
    (hm : q.marked h = if k.host = h then on else p.marked h)
    (hstate : (change k).state = .submitting ↔ on = true) :
    ∀ k', q.component? c = some k' → (k'.state = .submitting ↔ q.marked h = true) := by
  intro k' hk'
  rw [component?_of_modify hc] at hk'
  split at hk'
  · rename_i hdc
    subst hdc
    rw [hk] at hk'
    cases hk'
    rw [hm, if_pos (inv.mounted k hk)]
    exact hstate
  · -- the acting component is on another host
    rename_i hdc
    have hother : k.host ≠ h := fun hh => hdc (inv.sole d k hk hh)
    rw [hm, if_neg hother]
    exact inv.marked k' hk'

/-- `MarkInStep` is preserved if a component keeps its state. -/
private theorem modified (inv : p.MarkInStep c h) {change : Component → Component}
    (hc : q.components = p.components.modify d (Option.map change)) (hh : q.hosts = p.hosts)
    (hstate : ∀ k, (change k).state = k.state) :
    ∀ k', q.component? c = some k' → (k'.state = .submitting ↔ q.marked h = true) := by
  intro k' hk'
  rw [component?_of_modify hc] at hk'
  rw [marked_of_hosts hh]
  split at hk'
  · obtain ⟨k, hk, rfl⟩ := Option.map_eq_some_iff.mp hk'
    rw [hstate]
    exact inv.marked k hk
  · exact inv.marked k' hk'

end MarkInStep

/-- `AttributesWork` is preserved by every move that sets no fault. -/
theorem Move.attributesWork {kind : Kind} {p q : Page} (move : Move kind p q)
    (hset : kind ≠ .fault .setAttribute) (hremove : kind ≠ .fault .removeAttribute)
    (h : p.AttributesWork) : q.AttributesWork := by
  refine ⟨Bool.eq_false_iff.mpr fun hq => ?_, Bool.eq_false_iff.mpr fun hq => ?_⟩
  · exact Bool.eq_false_iff.mp h.1 (move.fails hset hq)
  · exact Bool.eq_false_iff.mp h.2 (move.fails hremove hq)

/-- `MarkInStep` is preserved by every move that does not write the attribute, creates no component
on the host, and sets no fault of attributes. -/
theorem Move.markInStep {kind : Kind} {p q : Page} {c : ComponentId} {h : HostId}
    (move : Move kind p q) (hmark : ∀ h', kind ≠ .mark h') (hcreate : kind ≠ .create h)
    (hset : kind ≠ .fault .setAttribute) (hremove : kind ≠ .fault .removeAttribute)
    (inv : p.MarkInStep c h) : q.MarkInStep c h := by
  refine inv.surroundings move hcreate (move.attributesWork hset hremove inv.works) ?_
  cases move with
  | tree e =>
    have hkept := e.kept
    intro k hk
    rw [marked_of_kept hkept.hosts inv.host]
    exact inv.marked k (by rwa [← hkept.component?])
  | mark h' => exact absurd rfl (hmark _)
  | ask | await | sleep | finishGone | dropAborted | clear | wake | advance | pollSleep | dropSleep
  | fault | mend | note | other => exact inv.marked
  | bind | rebind | unbind | replace | adopt => exact inv.modified rfl rfl fun _ => rfl
  | create =>
    intro k hk
    rw [component?_of_append (p := p) rfl, if_neg (Nat.ne_of_lt inv.placed)] at hk
    exact inv.marked k hk
  | drop =>
    intro k hk
    rw [component?_of_set_none (p := p) rfl] at hk
    split at hk
    · cases hk
    · exact inv.marked k hk
  | start hk =>
    exact inv.acting hk true rfl (marked_of_marking inv.host inv.works.1 rfl)
      (by simp [Component.busy])
  | finish _ _ _ _ hk =>
    exact inv.acting hk false rfl (marked_of_unmarking inv.host inv.works.2 rfl)
      (by simp [Component.madeIdle])
  | refuse hk _ _ _ =>
    -- the attribute is set and removed again
    refine inv.acting hk false rfl ?_ (by simp [Component.madeIdle])
    rw [marked_of_unmarking (p := { p with hosts := p.hostsMarking _ }) (by simpa using inv.host)
      inv.works.2 rfl, marked_of_marking (p := p) inv.host inv.works.1 rfl]
    split <;> rfl
  | @disconnect _ d k hk =>
    refine inv.acting hk false rfl ?_ (by simp [Component.madeIdle])
    by_cases hs : k.state = .submitting
    · exact marked_of_unmarking inv.host inv.works.2 (if_pos hs)
    · -- the host of an idle component does not have the attribute
      rw [marked_of_hosts (p := p) (if_neg hs)]
      split
      · rename_i hh
        have hdc := inv.sole d k hk hh
        subst hdc
        exact Bool.eq_false_iff.mpr fun hm => hs ((inv.marked k hk).mpr hm)
      · rfl

/-! ## Actions -/

/-- `sweep` preserves a component with a handle. -/
theorem sweep_of_handle {p : Page} {c : ComponentId} {k : Component}
    (hk : p.component? c = some k) (hh : some c ∈ p.handles) :
    p.sweep.component? c = some k := by
  refine ((sweep_course p).keeps
    (I := fun q => q.component? c = some k ∧ some c ∈ q.handles)
    (fun kind q r hkind move ih => ?_) ⟨hk, hh⟩).1
  cases move with
  | @drop _ d _ _ hheld =>
    refine ⟨?_, ih.2⟩
    rw [component?_of_set_none (p := q) rfl]
    split
    · rename_i hdc
      subst hdc
      have hhandle : q.heldByHandle d = true := List.contains_iff_mem.mpr ih.2
      simp [held, hhandle] at hheld
    · exact ih.1
  | tree | mark | create | bind | unbind | rebind | replace | adopt | disconnect | start | refuse
  | ask | await | sleep | finish | finishGone | dropAborted | clear | wake | advance | pollSleep
  | dropSleep | fault | mend | note | other => exact hkind.elim

/-- A component that the user creates is present after the sweep. -/
private theorem created_survives (p : Page) (notices : List Notice) (h : HostId)
    (config : Config) :
    (({ p with notices }.createWith h config).1.giveHandle p.components.length).1.sweep.component?
      p.components.length = some { host := h, config } := by
  apply sweep_of_handle
  · exact (component?_of_append (p := p) rfl _).trans (if_pos rfl)
  · exact List.mem_append_right _ (List.mem_singleton.mpr rfl)

/-- An action after which `c` is still alone on its host creates no component there. -/
theorem perform_course_of_sole {p : Page} {a : Action} {c : ComponentId} {h : HostId}
    (hh : h < p.hosts.length) (hc : c < p.components.length)
    (hsole : (p.perform a).1.SoleOn h c) :
    Course (fun k => a.Allows p k ∧ k ≠ .create h) p (p.perform a).1 := by
  have hsweep : Course (fun k => a.Allows p k ∧ k ≠ .create h) p p.sweep :=
    (sweep_course p).mono fun k hk => by cases k <;> first | exact hk.elim | exact ⟨trivial, nofun⟩
  -- a component created on the host would be present afterwards
  have hnever (notices : List Notice) (config : Config) (hpage : (p.perform a).1 =
      (({ p with notices }.createWith h config).1.giveHandle p.components.length).1.sweep) :
      Course (fun k => a.Allows p k ∧ k ≠ .create h) p (p.perform a).1 := by
    have hthere := created_survives p notices h config
    rw [← hpage] at hthere
    exact absurd hc (hsole _ _ hthere rfl ▸ Nat.lt_irrefl _)
  by_cases hcreates : a = .create h ∨ ∃ config, a = .createWith h config
  · rcases hcreates with rfl | ⟨config, rfl⟩
    · have hoffers : p.offers (.create h) = true := by simpa [offers] using hh
      cases hq : p.create h with
      | error e =>
        rw [show (p.perform (.create h)).1 = p.sweep by simp [perform, hoffers, act, hq]]
        exact hsweep
      | ok qc =>
        have hact : (p.perform (.create h)).1 = (qc.1.giveHandle qc.2).1.sweep := by
          simp [perform, hoffers, act, hq]
        unfold Page.create at hq
        split at hq
        · cases hq
        rename_i resolved _
        obtain ⟨notices, hnote⟩ := noteResolved_eq p resolved
        rw [hnote] at hq
        cases hq
        exact hnever notices resolved.config hact
    · have hoffers : p.offers (.createWith h config) = true := by simpa [offers] using hh
      refine hnever p.notices config ?_
      simp only [perform, hoffers, act, if_true]
      rfl
  · -- any other action creates components on new hosts only
    refine (perform_course p a).mono fun k hk => ⟨hk, ?_⟩
    rintro rfl
    rcases hk with rfl | ⟨config, rfl⟩ | ⟨-, hnew⟩
    · exact hcreates (.inl rfl)
    · exact hcreates (.inr ⟨config, rfl⟩)
    · exact absurd hh (Nat.not_lt.mpr hnew)

/-- `perform` preserves `MarkInStep`. -/
theorem MarkInStep.perform {p : Page} {c : ComponentId} {h : HostId} (inv : p.MarkInStep c h)
    {a : Action} (ha : a.sparesMark = true) (hsole : (p.perform a).1.SoleOn h c) :
    (p.perform a).1.MarkInStep c h := by
  refine (perform_course_of_sole inv.host inv.placed hsole).keeps
    (fun kind q r hkind move ih => move.markInStep ?_ hkind.2 ?_ ?_ ih) inv
  · rintro h' rfl
    rcases hkind.1 with ⟨value, rfl⟩ | rfl <;> simp [Action.sparesMark] at ha
  · rintro rfl
    rw [show a = _ from hkind.1] at ha
    cases ha
  · rintro rfl
    rw [show a = _ from hkind.1] at ha
    cases ha

/-- `performAll` preserves `MarkInStep`. -/
theorem MarkInStep.performAll {p : Page} {c : ComponentId} {h : HostId} (inv : p.MarkInStep c h)
    {actions : List Action} (ha : ∀ a ∈ actions, a.sparesMark = true)
    (hsole : ∀ n, (p.performAll (actions.take n)).SoleOn h c) :
    (p.performAll actions).MarkInStep c h := by
  induction actions generalizing p with
  | nil => exact inv
  | cons a rest ih =>
    refine ih (inv.perform (ha a (by simp)) (hsole 1)) (fun b hb => ha b (by simp [hb])) fun n => ?_
    exact hsole (n + 1)

/-- A component is idle after the action that created it. -/
theorem idle_of_created {p : Page} {a : Action} {c : ComponentId} {k : Component}
    (hnone : p.component? c = none) (hk : (p.perform a).1.component? c = some k) :
    k.state = .idle := by
  cases hs : k.state with
  | idle => rfl
  | submitting =>
    have hcourse := perform_course p a
    -- the action would have to start a pipeline and to create a component
    have hcreate : a.Allows p (.create k.host) := by
      rcases hcourse.origin hk with ⟨k₀, hk₀, -⟩ | ⟨-, hcreate⟩
      · rw [hnone] at hk₀
        cases hk₀
      · exact hcreate
    have hstart : a.Allows p (.start c) := by
      rcases hcourse.submitting hk hs with hstart | ⟨k₀, hk₀, -⟩
      · exact hstart
      · rw [hnone] at hk₀
        cases hk₀
    rcases hstart with ⟨_, rfl⟩ | ⟨_, _, _, rfl⟩ <;> simp [Action.Allows] at hcreate

/-- A component that was always alone on its host, which did not have the attribute at first, is
submitting exactly if its `inFlight` is set, exactly if it has a live pipeline, and exactly if its
host has the attribute. The user must not write the attribute, and attribute operations must not
fail. No component ever has two live pipelines. -/
theorem submitting_iff_marked {p : Page} (hp : p.Reachable) {a : Action} {c : ComponentId}
    {k₀ : Component} (hnone : p.component? c = none)
    (hcreated : (p.perform a).1.component? c = some k₀)
    (hunmarked : (p.perform a).1.marked k₀.host = false)
    (hworks : (p.perform a).1.AttributesWork) {rest : List Action}
    (hspares : ∀ b ∈ rest, b.sparesMark = true)
    (hsole : ∀ n, ((p.perform a).1.performAll (rest.take n)).SoleOn k₀.host c) {q : Page}
    (hq : q = (p.perform a).1.performAll rest) {k : Component}
    (hk : q.component? c = some k) :
    (k.state = .submitting ↔ k.inFlight.isSome = true) ∧
    (k.inFlight.isSome = true ↔ ∃ s, q.LiveAt c s) ∧
    ((∃ s, q.LiveAt c s) ↔ q.marked k.host = true) ∧
    ∀ d s t, q.LiveAt d s → q.LiveAt d t → s = t := by
  -- the component is created idle, on a host without the attribute
  have hborn : (p.perform a).1.MarkInStep c k₀.host := by
    refine ⟨(hp.perform a).visited.hostsKnown c k₀ hcreated, lt_of_component? hcreated, ?_, hsole 0,
      hworks, ?_⟩
    · intro k' hk'
      rw [hcreated] at hk'
      cases hk'
      rfl
    · intro k' hk'
      rw [idle_of_created hnone hk', hunmarked]
      simp
  -- the remaining actions preserve `MarkInStep` and `InStep`
  have hmark := hborn.performAll hspares hsole
  have hstep := ((hp.perform a).performAll rest).visited.inStep
  rw [← hq] at hmark hstep
  have hbusy := hstep.busy c k hk
  have hlive : k.inFlight.isSome = true ↔ ∃ s, q.LiveAt c s := by
    rw [Option.isSome_iff_exists]
    exact exists_congr (hstep.flight c k hk)
  refine ⟨hbusy, hlive, ?_, fun d s t hs ht => hstep.live_unique hs ht⟩
  rw [← hlive, ← hbusy, hmark.mounted k hk]
  exact hmark.marked k hk

/-- A component whose pipeline is pending on a deferred reply. -/
theorem submitting_iff_marked_awaiting :
    let p := performAll {} [.defer, .newForm { action := "/save", method := "post" },
      .newHost [("class", "box")] (some 0) none false, .append 0 0]
    let q := (p.perform (.createWith 0 {})).1.performAll [.attach 0, .handleSubmit 0 none, .run]
    ∃ k, q.component? 0 = some k ∧ k.state = .submitting ∧ k.inFlight.isSome = true ∧
      (∃ s, q.LiveAt 0 s) ∧ q.marked k.host = true := by
  intro p q
  have hlength : ∀ n, ((p.perform (.createWith 0 {})).1.performAll
      (List.take n [.attach 0, .handleSubmit 0 none, .run])).components.length = 1 := by
    intro n
    match n with
    | 0 | 1 | 2 => decide +kernel
    | n + 3 =>
      rw [List.take_of_length_le (by simp)]
      decide +kernel
  have hcreated : (p.perform (.createWith 0 {})).1.component? 0 =
      some { host := 0, config := {} } := by decide +kernel
  have hk : q.component? 0 =
      some { host := 0, config := {}, state := .submitting, form := some 0,
             listener := some ⟨0, 0⟩, inFlight := some 0 } := by decide +kernel
  obtain ⟨hbusy, hlive, hmark, -⟩ := submitting_iff_marked ⟨_, rfl⟩ (by decide +kernel) hcreated
    (by decide +kernel) ⟨by decide +kernel, by decide +kernel⟩ (by simp [Action.sparesMark])
    (fun n d k' hk' _ => Nat.lt_one_iff.mp (hlength n ▸ lt_of_component? hk')) (rfl : q = _) hk
  have hflight := hbusy.mp rfl
  exact ⟨_, hk, rfl, hflight, hlive.mp hflight, hmark.mp (hlive.mp hflight)⟩

end Page

end FormSwap
