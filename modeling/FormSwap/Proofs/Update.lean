import FormSwap.Proofs.Move

/-!
# Component operations as record updates

Each operation of a component is one update of the page, in each of its cases. These lemmas are the
only place where the operations are unfolded.
-/

namespace FormSwap.Page

/-! ## Lookup after a change -/

theorem component?_eq_some {p : Page} {c : ComponentId} {k : Component} :
    p.component? c = some k ↔ p.components[c]? = some (some k) := by
  simp [component?, Option.join_eq_some_iff]

/-- A component that is present has an index in range. -/
theorem lt_of_component? {p : Page} {c : ComponentId} {k : Component}
    (hk : p.component? c = some k) : c < p.components.length :=
  (List.getElem?_eq_some_iff.mp (component?_eq_some.mp hk)).1

/-- `component?` after `modify`. -/
theorem component?_of_modify {p q : Page} {c : ComponentId} {change : Component → Component}
    (h : q.components = p.components.modify c (Option.map change)) (d : ComponentId) :
    q.component? d = if c = d then (p.component? d).map change else p.component? d := by
  simp only [component?, h, List.getElem?_modify]
  split
  · cases p.components[d]? <;> simp
  · simp

/-- `component?` after a component is added. -/
theorem component?_of_append {p q : Page} {k : Component}
    (h : q.components = p.components ++ [some k]) (d : ComponentId) :
    q.component? d = if d = p.components.length then some k else p.component? d := by
  simp only [component?, h]
  split
  · subst d
    simp
  · rename_i hne
    rcases Nat.lt_or_gt_of_ne hne with hlt | hgt
    · rw [List.getElem?_append_left hlt]
    · rw [List.getElem?_eq_none (by simp; omega), List.getElem?_eq_none (by omega)]

/-- `component?` after a component is dropped. -/
theorem component?_of_set_none {p q : Page} {c : ComponentId}
    (h : q.components = p.components.set c none) (d : ComponentId) :
    q.component? d = if c = d then none else p.component? d := by
  simp only [component?, h, List.getElem?_set]
  split
  · split <;> simp
  · rfl

/-- Two changes of a component are one. -/
private theorem modify_modify_map (cs : List (Option Component)) (c : ComponentId)
    (f g : Component → Component) :
    (cs.modify c (Option.map f)).modify c (Option.map g) =
      cs.modify c (Option.map fun k => g (f k)) := by
  rw [List.modify_modify_eq, Option.map_comp_map]
  rfl

/-- `modify` depends on the component that is present only. -/
private theorem modify_map_congr {p : Page} {c : ComponentId} {k : Component}
    (hk : p.component? c = some k) {f g : Component → Component} (hfg : f k = g k) :
    p.components.modify c (Option.map f) = p.components.modify c (Option.map g) := by
  apply List.ext_getElem?
  intro d
  simp only [List.getElem?_modify]
  by_cases hcd : c = d
  · subst hcd
    simp [component?_eq_some.mp hk, hfg]
  · simp [hcd]

/-- `modify` of the last component. -/
theorem modify_last (cs : List (Option Component)) (slot : Option Component)
    (change : Option Component → Option Component) :
    (cs ++ [slot]).modify cs.length change = cs ++ [change slot] := by
  induction cs with
  | nil => rfl
  | cons other rest ih => simp [ih]

/-! ## Submits and detachment -/

theorem releaseForm_eq {p : Page} {c : ComponentId} {k : Component}
    (hk : p.component? c = some k) :
    p.releaseForm c = { p with
      forms := p.formsWithout k.listener
      components := p.components.modify c (Option.map Component.unbound) } := by
  unfold releaseForm
  cases hl : k.listener <;> simp [hk, hl, formsWithout, modifyComponent, removeListener,
    modifyForm] <;> rfl

/-- `listen` as an update. -/
theorem listen_eq {p q : Page} {c : ComponentId} {f : FormId} (hq : p.listen c f = .ok q) :
    q = { p with
      forms := p.formsWith f ⟨p.nextListener f, .component c⟩
      components := p.components.modify c
        (Option.map (Component.bound f ⟨f, p.nextListener f⟩)) } := by
  unfold listen addListener at hq
  split at hq
  · cases hq
  · rename_i hok
    split at hok
    · cases hok
    · cases hok
      cases hq
      rfl

theorem enterSubmitting_eq {p : Page} {c : ComponentId} {k : Component}
    (hk : p.component? c = some k) :
    ∃ notices, p.enterSubmitting c = { p with
      hosts := p.hostsMarking k.host
      components := p.components.modify c (Option.map fun k => { k with state := .submitting })
      notices } := by
  have hsame (change : Component → Component) :
      (p.modifyComponent c change).fails .setAttribute = p.fails .setAttribute := rfl
  unfold enterSubmitting setAttribute
  simp only [hk, hsame, hostsMarking]
  cases p.fails .setAttribute <;> exact ⟨_, rfl⟩

theorem leaveSubmitting_of_none {p : Page} {c : ComponentId} (hk : p.component? c = none) :
    p.leaveSubmitting c = p := by
  unfold leaveSubmitting
  rw [hk]

theorem leaveSubmitting_eq {p : Page} {c : ComponentId} {k : Component}
    (hk : p.component? c = some k) :
    ∃ notices, p.leaveSubmitting c = { p with
      hosts := p.hostsUnmarking k.host
      components := p.components.modify c (Option.map Component.madeIdle)
      notices } := by
  have hsame (change : Component → Component) :
      (p.modifyComponent c change).fails .removeAttribute = p.fails .removeAttribute := rfl
  unfold leaveSubmitting removeAttribute
  simp only [hk, hsame, hostsUnmarking]
  cases p.fails .removeAttribute <;> exact ⟨_, rfl⟩

theorem abortInFlight_eq {p : Page} {c : ComponentId} {k : Component}
    (hk : p.component? c = some k) :
    p.abortInFlight c = { p with
      components := p.components.modify c (Option.map fun k => { k with inFlight := none })
      pipelines := p.pipelinesAborting k.inFlight
      woken := p.wokenAborting k.inFlight } := by
  unfold abortInFlight
  rw [hk, Option.bind_some]
  cases hf : k.inFlight with
  | none =>
    have hsame : p.components.modify c (Option.map fun k => { k with inFlight := none }) =
        p.components.modify c (Option.map id) := modify_map_congr hk (by simp [← hf])
    simp [hsame, pipelinesAborting, wokenAborting]
  | some s =>
    unfold abort wokenAborting wake
    dsimp only [modifyComponent, modifyPipeline]
    split
    · rfl
    · split <;> rfl

/-- `enterSubmitting` and `spawn` as an update. -/
theorem started_eq {p : Page} {c : ComponentId} {k : Component} (hk : p.component? c = some k)
    (f : FormId) (payload : Except SubmitError Payload) :
    ∃ notices, (p.enterSubmitting c).spawn c f payload = { p with
      hosts := p.hostsMarking k.host
      components := p.components.modify c (Option.map (Component.busy p.pipelines.length))
      pipelines := p.pipelines ++ [{ owner := c, stage := .accepted f payload }]
      spawned := p.spawned ++ [p.pipelines.length]
      notices } := by
  obtain ⟨notices, henter⟩ := enterSubmitting_eq hk
  refine ⟨notices, ?_⟩
  rw [henter]
  unfold spawn
  dsimp only [modifyComponent]
  rw [modify_modify_map]
  rfl

/-- A failed `spawn` as an update. -/
theorem refused_eq {p : Page} {c : ComponentId} {k : Component} (hk : p.component? c = some k) :
    ∃ notices, ((p.enterSubmitting c).note .notScheduled).leaveSubmitting c = { p with
      hosts := { p with hosts := p.hostsMarking k.host }.hostsUnmarking k.host
      components := p.components.modify c (Option.map Component.madeIdle)
      notices } := by
  obtain ⟨before, henter⟩ := enterSubmitting_eq hk
  have hbusy : ((p.enterSubmitting c).note .notScheduled).component? c =
      some { k with state := .submitting } := by
    rw [henter, component?_of_modify (p := p) rfl, if_pos rfl, hk]
    rfl
  obtain ⟨after, hleave⟩ := leaveSubmitting_eq hbusy
  refine ⟨after, ?_⟩
  rw [hleave, henter]
  dsimp only [note]
  rw [modify_modify_map]
  rfl

/-- `Handled p c e q d`: `handleSubmit` of `e` by `c` leads from `p` to `q` with the disposition
`d`. -/
inductive Handled (p : Page) (c : ComponentId) (e : SubmitEvent) : Page → Disposition → Prop where
  | gone (hk : p.component? c = none) : Handled p c e p .ignored
  | busy {k : Component} (hk : p.component? c = some k) (hs : k.state = .submitting) :
    Handled p c e (p.note .busy) .ignored
  | unattached {k : Component} (hk : p.component? c = some k) (hi : k.state = .idle)
      (hf : k.form = none) : Handled p c e (p.note .unattached) .ignored
  | refused {k : Component} {f : FormId} (hk : p.component? c = some k) (hi : k.state = .idle)
      (hf : k.form = some f) (hs : p.fails .spawn = true) (notices : List Notice) :
    Handled p c e { p with
      hosts := { p with hosts := p.hostsMarking k.host }.hostsUnmarking k.host
      components := p.components.modify c (Option.map Component.madeIdle)
      notices } .ignored
  | started {k : Component} {f : FormId} (hk : p.component? c = some k) (hi : k.state = .idle)
      (hf : k.form = some f) (hs : p.fails .spawn = false) (notices : List Notice) :
    Handled p c e { p with
      hosts := p.hostsMarking k.host
      components := p.components.modify c (Option.map (Component.busy p.pipelines.length))
      pipelines := p.pipelines ++
        [{ owner := c, stage := .accepted f (p.collectPayload f e.submitter) }]
      spawned := p.spawned ++ [p.pipelines.length]
      notices } .started

/-- `handleSubmit` prevents the default, and starts a pipeline if the component is idle and has a
form and `spawn` does not fail. -/
theorem handleSubmit_handled (p : Page) (c : ComponentId) (e : SubmitEvent) :
    (p.handleSubmit c e).2.1 = e.prevent ∧
      Handled p c e (p.handleSubmit c e).1 (p.handleSubmit c e).2.2 := by
  unfold handleSubmit
  cases hk : p.component? c with
  | none => exact ⟨rfl, .gone hk⟩
  | some k =>
    dsimp only
    cases hs : k.state with
    | submitting => exact ⟨rfl, .busy hk hs⟩
    | idle =>
      rw [if_neg (by simp)]
      cases hf : k.form with
      | none => exact ⟨rfl, .unattached hk hs hf⟩
      | some f =>
        -- setting the attribute does not change the faults
        have hspawn : (p.enterSubmitting c).fails .spawn = p.fails .spawn := by
          obtain ⟨notices, henter⟩ := enterSubmitting_eq hk
          rw [henter]
          rfl
        dsimp only
        rw [hspawn]
        split
        · rename_i hrefuses
          obtain ⟨notices, hrefused⟩ := refused_eq hk
          rw [hrefused]
          exact ⟨rfl, .refused hk hs hf hrefuses notices⟩
        · rename_i haccepts
          obtain ⟨notices, hstarted⟩ := started_eq hk f (p.collectPayload f e.prevent.submitter)
          rw [hstarted]
          exact ⟨rfl, .started hk hs hf (by simpa using haccepts) notices⟩

/-- `handleSubmit` accepts a submit of an idle component with a form, and adds a pipeline with the
form's fields. -/
theorem handleSubmit_started {p : Page} {c : ComponentId} {e : SubmitEvent}
    (h : (p.handleSubmit c e).2.2 = .started) :
    ∃ k f, p.component? c = some k ∧ k.state = .idle ∧ k.form = some f ∧
      (p.handleSubmit c e).1.pipelines = p.pipelines ++
        [{ owner := c, stage := .accepted f (p.collectPayload f e.submitter) }] := by
  have hhandled := (handleSubmit_handled p c e).2
  generalize p.handleSubmit c e = answer at h hhandled ⊢
  obtain ⟨q, e', d⟩ := answer
  cases hhandled with
  | gone | busy | unattached | refused => cases h
  | @started k f hk hi hf => exact ⟨k, f, hk, hi, hf, rfl⟩

/-- `releaseForm` of a component that is set to detached, as an update. -/
theorem retire_eq {p : Page} {c : ComponentId} {k : Component} (hk : p.component? c = some k) :
    (p.modifyComponent c fun k => { k with detached := true }).releaseForm c = { p with
      forms := p.formsWithout k.listener
      components := p.components.modify c (Option.map Component.retired) } := by
  have hforms (change : Component → Component) :
      (p.modifyComponent c change).formsWithout k.listener = p.formsWithout k.listener := by
    cases k.listener <;> rfl
  have hdetached : (p.modifyComponent c fun k => { k with detached := true }).component? c =
      some { k with detached := true } := by
    rw [component?_of_modify (p := p) rfl, if_pos rfl, hk]
    rfl
  rw [releaseForm_eq hdetached]
  dsimp only
  rw [hforms]
  dsimp only [modifyComponent]
  rw [modify_modify_map]
  rfl

/-- `disconnect` as an update, up to the state. -/
private theorem abort_eq {p : Page} {c : ComponentId} {k : Component}
    (hk : p.component? c = some k) :
    ((p.modifyComponent c fun k => { k with detached := true }).releaseForm c).abortInFlight c =
      { p with
        forms := p.formsWithout k.listener
        components := p.components.modify c
          (Option.map fun k => { k.retired with inFlight := none })
        pipelines := p.pipelinesAborting k.inFlight
        woken := p.wokenAborting k.inFlight } := by
  have hretired : ((p.modifyComponent c fun k => { k with detached := true }).releaseForm
      c).component? c = some k.retired := by
    rw [retire_eq hk, component?_of_modify (p := p) rfl, if_pos rfl, hk]
    rfl
  rw [abortInFlight_eq hretired, retire_eq hk]
  dsimp only
  rw [modify_modify_map]
  dsimp only [Component.retired]
  cases k.inFlight <;> rfl

theorem disconnect_of_none {p : Page} {c : ComponentId} (hk : p.component? c = none) :
    p.disconnect c = p := by
  unfold disconnect
  rw [hk]

theorem disconnect_eq {p : Page} {c : ComponentId} {k : Component}
    (hk : p.component? c = some k) :
    ∃ notices, p.disconnect c = { p with
      hosts := if k.state = .submitting then p.hostsUnmarking k.host else p.hosts
      forms := p.formsWithout k.listener
      components := p.components.modify c (Option.map fun k => k.retired.madeIdle)
      pipelines := p.pipelinesAborting k.inFlight
      woken := p.wokenAborting k.inFlight
      notices } := by
  unfold disconnect
  rw [hk]
  dsimp only
  split
  · have hoff : (((p.modifyComponent c fun k => { k with detached := true }).releaseForm
        c).abortInFlight c).component? c = some { k.retired with inFlight := none } := by
      rw [abort_eq hk, component?_of_modify (p := p) rfl, if_pos rfl, hk]
      rfl
    obtain ⟨notices, hleave⟩ := leaveSubmitting_eq hoff
    refine ⟨notices, ?_⟩
    rw [hleave, abort_eq hk]
    dsimp only
    rw [modify_modify_map]
    rfl
  · -- the component is idle already, so its state does not change
    rename_i hbusy
    have hidle : k.state = .idle := by
      cases hs : k.state <;> simp_all
    refine ⟨p.notices, ?_⟩
    rw [abort_eq hk, modify_map_congr hk (f := fun k => { k.retired with inFlight := none })
      (g := fun k => k.retired.madeIdle) (by simp [Component.retired, Component.madeIdle, hidle])]

/-! ## Attachment and mounting -/

/-- `attach` of a component without a listener, as an update. -/
theorem attach_eq {p q : Page} {c : ComponentId} {k : Component} (hk : p.component? c = some k)
    (hl : k.listener = none) (hq : p.attach c = .ok q) :
    k.detached = false ∧ ∃ f, p.queryForm k.host = some f ∧ q = { p with
      forms := p.formsWith f ⟨p.nextListener f, .component c⟩
      components := p.components.modify c
        (Option.map (Component.bound f ⟨f, p.nextListener f⟩))
      notices := p.notices ++ [.attached k.config] } := by
  unfold attach at hq
  rw [hk] at hq
  dsimp only at hq
  split at hq
  · cases hq
  rename_i hd
  rw [if_neg (by simp [hl])] at hq
  split at hq
  · cases hq
  rename_i f hf
  split at hq
  · cases hq
  rename_i q' hlisten
  cases hq
  exact ⟨by simpa using hd, f, hf, by rw [listen_eq hlisten]; rfl⟩

theorem noteResolved_eq (p : Page) (r : Config.Resolved) :
    ∃ notices, p.noteResolved r = { p with notices } := by
  unfold noteResolved
  split
  · exact ⟨_, rfl⟩
  · exact ⟨_, rfl⟩

/-- `mount` as an update. -/
theorem mount_eq {p q : Page} {h : HostId} {r : ComponentId} (hq : p.mount h = (q, .ok r)) :
    r = p.components.length ∧ ∃ f config notices, p.queryForm h = some f ∧
      q = { p with
        forms := p.formsWith f ⟨p.nextListener f, .component r⟩
        components := p.components ++
          [some (Component.bound f ⟨f, p.nextListener f⟩ { host := h, config })]
        notices } := by
  unfold mount at hq
  split at hq
  · cases hq
  rename_i resolved _
  obtain ⟨notices, hnote⟩ := noteResolved_eq p resolved
  rw [hnote] at hq
  dsimp only [createWith] at hq
  split at hq
  · cases hq
  rename_i hattach
  obtain ⟨-, f, hf, rfl⟩ := attach_eq
    (by rw [component?_of_append (p := p) rfl, if_pos rfl]) rfl hattach
  cases hq
  refine ⟨rfl, f, resolved.config, notices ++ [.attached resolved.config], hf, ?_⟩
  dsimp only
  rw [modify_last]
  rfl

/-- A failed `mount` logs notices only. -/
theorem mount_error_eq {p q : Page} {h : HostId} {e : ConfigError}
    (hq : p.mount h = (q, .error e)) : ∃ notices, q = { p with notices } := by
  unfold mount at hq
  split at hq
  · cases hq
    exact ⟨_, rfl⟩
  rename_i resolved _
  dsimp only at hq
  split at hq
  · cases hq
    exact noteResolved_eq p resolved
  · cases hq

/-! ## Dropping a component -/

/-- `set` overwrites `modify`. -/
private theorem set_modify (cs : List (Option Component)) (c : ComponentId)
    (change : Option Component → Option Component) :
    (cs.modify c change).set c none = cs.set c none := by
  apply List.ext_getElem?
  intro d
  simp only [List.getElem?_set, List.length_modify, List.getElem?_modify]
  split
  · rfl
  · simp

/-- `dropComponent` of a dropped component changes nothing. -/
theorem dropComponent_of_none {p : Page} {c : ComponentId} (hk : p.component? c = none) :
    p.dropComponent c = p := by
  have hset : p.components.set c none = p.components := by
    apply List.ext_getElem?
    intro d
    rw [List.getElem?_set]
    split
    · rename_i hcd
      subst hcd
      have hslot := Option.join_eq_none_iff.mp hk
      rcases hslot with hout | hempty
      · simp [List.getElem?_eq_none_iff.mp hout]
      · rw [if_pos (List.getElem?_eq_some_iff.mp hempty).1, hempty]
    · rfl
  unfold dropComponent releaseForm
  rw [hk]
  dsimp only [Option.bind_none, modifyComponent]
  rw [set_modify, hset]

theorem dropComponent_eq {p : Page} {c : ComponentId} {k : Component}
    (hk : p.component? c = some k) :
    p.dropComponent c = { p with
      forms := p.formsWithout k.listener
      components := p.components.set c none } := by
  unfold dropComponent
  rw [releaseForm_eq hk]
  dsimp only
  rw [set_modify]

end FormSwap.Page
