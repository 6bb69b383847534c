import FormSwap.Proofs.Listeners

/-!
# Mounting components on a list of hosts

`mount` succeeds on a host if its attributes are a valid configuration, its contents have a form,
and a listener can be added to it. `adopt` mounts a component on each of a list of hosts in turn. A
host on which that fails is logged and has no other effect; the others get the next component ids,
in order.

Main definitions:

- `Plan`: the host, configuration and form of a component to be mounted
- `Page.mountPlan`: the plan for a host, or the error of mounting on it
- `Page.Adopted`: a page after components were mounted by a list of plans

Main results:

- `Page.mount_eq_plan`: the effect of `mount` on one host
- `Page.adopt_adopted`: the effect of `adopt` on a list of hosts
-/

namespace FormSwap

/-- `Plan` is the host, the configuration and the form of a component to be mounted. -/
structure Plan where
  host : HostId
  config : Config
  form : FormId
deriving DecidableEq, Repr

/-- `plan.component n` is the component of a plan, with the listener `n`. -/
def Plan.component (plan : Plan) (n : Nat) : Component :=
  .bound plan.form ⟨plan.form, n⟩ { host := plan.host, config := plan.config }

/-- `k.replacedByAll replacements` is `k` with further replacements. -/
def Component.replacedByAll (replacements : List ComponentId) (k : Component) : Component :=
  { k with replacements := k.replacements ++ replacements }

/-- `n.refusal?` is the error of a notice about a failed mount. -/
def Notice.refusal? : Notice → Option ConfigError
  | .notMounted e => some e
  | _ => none

namespace Page

/-! ## One host -/

/-- `p.mountPlan h` is the plan of a component on `h`, or the error of mounting it. -/
def mountPlan (p : Page) (h : HostId) : Except ConfigError Plan :=
  match Config.ofAttributes (p.getAttribute h) with
  | .error e => .error e
  | .ok r =>
    match p.queryForm h with
    | none => .error .formNotFound
    | some f =>
      if p.fails .addSubmitListener then .error (.dom (.fault .addSubmitListener))
      else .ok ⟨h, r.config, f⟩

/-- `p.delayReports h` is the notice on the delay of `h`, if it was ignored. -/
def delayReports (p : Page) (h : HostId) : List Notice :=
  match Config.ofAttributes (p.getAttribute h) with
  | .error _ => []
  | .ok r => (r.ignoredDelay.map Notice.delayIgnored).toList

/-- `p.mountReports h` is what `adopt` logs about `h`. -/
def mountReports (p : Page) (h : HostId) : List Notice :=
  p.delayReports h ++
    match p.mountPlan h with
    | .error e => [.notMounted e]
    | .ok plan => [.attached plan.config]

variable {p q : Page} {c : ComponentId} {h : HostId}

/-- `mountPlan` depends on the host and the faults only. -/
theorem mountPlan_congr (hhost : q.hosts[h]? = p.hosts[h]?) (hfaults : q.faults = p.faults) :
    q.mountPlan h = p.mountPlan h := by
  have hattribute : q.getAttribute h = p.getAttribute h := by
    funext name
    rw [getAttribute, getAttribute, hhost]
  rw [mountPlan, mountPlan, hattribute, queryForm, queryForm, hhost, fails, fails, hfaults]

theorem noteResolved_notices {r : Config.Resolved}
    (hr : Config.ofAttributes (p.getAttribute h) = .ok r) :
    p.noteResolved r = { p with notices := p.notices ++ p.delayReports h } := by
  have hreports : p.delayReports h = (r.ignoredDelay.map Notice.delayIgnored).toList := by
    rw [delayReports, hr]
  unfold noteResolved
  rw [hreports]
  cases r.ignoredDelay with
  | none => simp
  | some text => rfl

/-- `attach` of a new component binds it to the form of its host, unless there is none or adding the
listener fails. -/
theorem attach_createWith (p : Page) (h : HostId) (config : Config) :
    (p.createWith h config).1.attach p.components.length =
      match p.queryForm h with
      | none => .error .formNotFound
      | some f =>
        if p.fails .addSubmitListener then .error (.dom (.fault .addSubmitListener))
        else .ok { p with
          forms := p.forms.modify f (Form.install (.component p.components.length))
          components := p.components ++ [some (Plan.component ⟨h, config, f⟩ (p.nextListener f))]
          notices := p.notices ++ [.attached config] } := by
  have hk : (p.createWith h config).1.component? p.components.length =
      some { host := h, config } := by
    rw [component?_of_append (p := p) rfl, if_pos rfl]
  have hquery : (p.createWith h config).1.queryForm h = p.queryForm h := rfl
  have hfails : (p.createWith h config).1.fails .addSubmitListener = p.fails .addSubmitListener :=
    rfl
  unfold attach
  simp only [hk, Bool.false_eq_true, if_false, Option.isSome_none, hquery]
  cases p.queryForm h with
  | none => rfl
  | some f =>
    dsimp only [listen, addListener]
    rw [hfails]
    cases p.fails .addSubmitListener with
    | true => rfl
    | false =>
      have hforms := formsWith_eq p f (.component p.components.length)
      have hlast := modify_last p.components (some { host := h, config })
        (Option.map (Component.bound f ⟨f, p.nextListener f⟩))
      simp only [Bool.false_eq_true, if_false, Except.ok.injEq]
      rw [← hforms]
      exact congrArg (fun components => ({ p with
        forms := p.formsWith f ⟨p.nextListener f, .component p.components.length⟩
        components
        notices := p.notices ++ [.attached config] } : Page)) hlast

/-- `mount` adds the component of the plan, if there is one, and logs `delayReports`. -/
theorem mount_eq_plan (p : Page) (h : HostId) :
    p.mount h =
      match p.mountPlan h with
      | .error e => ({ p with notices := p.notices ++ p.delayReports h }, .error e)
      | .ok plan =>
        ({ p with
            forms := p.forms.modify plan.form (Form.install (.component p.components.length))
            components := p.components ++ [some (plan.component (p.nextListener plan.form))]
            notices := p.notices ++ p.delayReports h ++ [.attached plan.config] },
          .ok p.components.length) := by
  unfold mount mountPlan
  cases hr : Config.ofAttributes (p.getAttribute h) with
  | error e => simp [delayReports, hr]
  | ok r =>
    have hattach := attach_createWith { p with notices := p.notices ++ p.delayReports h } h r.config
    have hquery : ({ p with notices := p.notices ++ p.delayReports h } : Page).queryForm h =
        p.queryForm h := rfl
    have hfails : ({ p with notices := p.notices ++ p.delayReports h } : Page).fails
        .addSubmitListener = p.fails .addSubmitListener := rfl
    rw [hquery, hfails] at hattach
    dsimp only
    rw [noteResolved_notices hr]
    dsimp only [createWith] at hattach ⊢
    rw [hattach]
    cases p.queryForm h with
    | none => rfl
    | some f => cases p.fails .addSubmitListener <;> rfl

/-- The host, form and configuration of a plan. -/
theorem mountPlan_eq_ok {plan : Plan} (hplan : p.mountPlan h = .ok plan) :
    plan.host = h ∧ p.queryForm h = some plan.form ∧
      ∃ r, Config.ofAttributes (p.getAttribute h) = .ok r ∧ plan.config = r.config := by
  unfold mountPlan at hplan
  split at hplan
  · cases hplan
  rename_i r hr
  split at hplan
  · cases hplan
  rename_i f hf
  split at hplan
  · cases hplan
  · cases hplan
    exact ⟨rfl, hf, r, hr, rfl⟩

theorem isOk_parse (value : String) :
    (SwapMode.parse value).isOk = (value == "outerHTML" || value == "innerHTML") := by
  unfold SwapMode.parse SwapMode.ofName?
  by_cases houter : value = "outerHTML"
  · simp [houter, Except.isOk, Except.toBool]
  · by_cases hinner : value = "innerHTML"
    · simp [hinner, Except.isOk, Except.toBool]
    · simp [houter, hinner, Except.isOk, Except.toBool]

/-- `>>=` with a function that cannot fail preserves `isOk`. -/
theorem isOk_bind {ε α β : Type} (x : Except ε α) {next : α → Except ε β}
    (hnext : ∀ a, (next a).isOk = true) : (x >>= next).isOk = x.isOk := by
  cases x with
  | error e => rfl
  | ok a => exact hnext a

/-- `ofAttributes` succeeds unless the swap mode is invalid. -/
theorem isOk_ofAttributes (lookup : String → Option String) :
    (Config.ofAttributes lookup).isOk =
      (lookup swapAttribute).all fun value => value == "outerHTML" || value == "innerHTML" := by
  unfold Config.ofAttributes
  cases lookup swapAttribute
  case' none => refine (isOk_bind (.ok SwapMode.outer) ?_).trans rfl
  case' some value => refine (isOk_bind (SwapMode.parse value) ?_).trans (isOk_parse value)
  -- an invalid delay is ignored, so nothing else can fail
  all_goals
    intro swap
    cases lookup delayAttribute with
    | none => rfl
    | some text =>
      dsimp only
      cases Config.delayMillis? text.toList with
      | none => rfl
      | some n => rfl

/-- `p.mountable h`: the swap mode of `h` is missing or valid, its contents have a form, and adding
listeners does not fail. -/
def mountable (p : Page) (h : HostId) : Bool :=
  ((p.getAttribute h swapAttribute).all fun value =>
    value == "outerHTML" || value == "innerHTML") &&
    (p.queryForm h).isSome && !p.fails .addSubmitListener

/-- `mountPlan` succeeds exactly on `mountable` hosts. -/
theorem isOk_mountPlan (p : Page) (h : HostId) : (p.mountPlan h).isOk = p.mountable h := by
  rw [mountable, ← isOk_ofAttributes, mountPlan]
  cases Config.ofAttributes (p.getAttribute h) with
  | error e => rfl
  | ok r =>
    cases p.queryForm h with
    | none => rfl
    | some f => cases p.fails .addSubmitListener <;> rfl

theorem mountable_of_ok {plan : Plan} (hplan : p.mountPlan h = .ok plan) :
    p.mountable h = true := by
  rw [← isOk_mountPlan, hplan]
  rfl

theorem mountable_of_error {e : ConfigError} (hplan : p.mountPlan h = .error e) :
    p.mountable h = false := by
  rw [← isOk_mountPlan, hplan]
  rfl

/-! ## A list of hosts -/

/-- `p.plans hosts` lists the plans of those hosts that have one. -/
def plans (p : Page) (hosts : List HostId) : List Plan :=
  hosts.filterMap fun h => (p.mountPlan h).toOption

theorem plans_cons_of_error {e : ConfigError} (hplan : p.mountPlan h = .error e)
    (hosts : List HostId) : p.plans (h :: hosts) = p.plans hosts := by
  simp [plans, hplan, Except.toOption]

theorem plans_cons_of_ok {plan : Plan} (hplan : p.mountPlan h = .ok plan) (hosts : List HostId) :
    p.plans (h :: hosts) = plan :: p.plans hosts := by
  simp [plans, hplan, Except.toOption]

theorem mem_plans {plan : Plan} {hosts : List HostId} :
    plan ∈ p.plans hosts ↔ ∃ h ∈ hosts, p.mountPlan h = .ok plan := by
  unfold plans
  rw [List.mem_filterMap]
  constructor
  · rintro ⟨h, hh, hplan⟩
    cases hmount : p.mountPlan h with
    | error e =>
      rw [hmount] at hplan
      cases hplan
    | ok plan' =>
      rw [hmount] at hplan
      cases hplan
      exact ⟨h, hh, hmount⟩
  · rintro ⟨h, hh, hplan⟩
    exact ⟨h, hh, by rw [hplan]; rfl⟩

/-- The hosts of `plans` are the `mountable` ones, in order. -/
theorem map_host_plans (p : Page) (hosts : List HostId) :
    (p.plans hosts).map Plan.host = hosts.filter p.mountable := by
  induction hosts with
  | nil => rfl
  | cons h rest ih =>
    cases hplan : p.mountPlan h with
    | error e =>
      rw [plans_cons_of_error hplan, ih,
        List.filter_cons_of_neg (by simp [mountable_of_error hplan])]
    | ok plan =>
      rw [plans_cons_of_ok hplan, List.map_cons, ih, (mountPlan_eq_ok hplan).1,
        List.filter_cons_of_pos (mountable_of_ok hplan)]

/-- The forms of `plans` are a sublist of the forms of the hosts. -/
theorem map_form_plans_sublist (p : Page) (hosts : List HostId) :
    ((p.plans hosts).map Plan.form).Sublist (hosts.filterMap p.queryForm) := by
  induction hosts with
  | nil => exact .slnil
  | cons h rest ih =>
    cases hplan : p.mountPlan h with
    | error e =>
      rw [plans_cons_of_error hplan]
      cases hf : p.queryForm h with
      | none => rwa [List.filterMap_cons_none hf]
      | some f =>
        rw [List.filterMap_cons_some hf]
        exact ih.cons f
    | ok plan =>
      rw [plans_cons_of_ok hplan, List.map_cons,
        List.filterMap_cons_some (mountPlan_eq_ok hplan).2.1]
      exact ih.cons_cons plan.form

/-- Each host that is not `mountable` is logged once, with its error. -/
theorem refusals_of_reports (p : Page) (hosts : List HostId) :
    List.Forall₂ (fun h e => p.mountPlan h = .error e) (hosts.filter fun h => !p.mountable h)
      ((hosts.flatMap p.mountReports).filterMap Notice.refusal?) := by
  induction hosts with
  | nil => exact .nil
  | cons h rest ih =>
    have hdelay : (p.delayReports h).filterMap Notice.refusal? = [] := by
      unfold delayReports
      cases Config.ofAttributes (p.getAttribute h) with
      | error e => rfl
      | ok r =>
        dsimp only
        cases r.ignoredDelay <;> rfl
    rw [List.flatMap_cons, List.filterMap_append, mountReports, List.filterMap_append, hdelay,
      List.nil_append]
    cases hplan : p.mountPlan h with
    | error e =>
      rw [List.filter_cons_of_pos (by simp [mountable_of_error hplan])]
      exact .cons hplan ih
    | ok plan =>
      rw [List.filter_cons_of_neg (by simp [mountable_of_ok hplan])]
      exact ih

/-- `Adopted p c plans reports q`: `q` is `p` after `c` adopted the components of the plans. They
are added in order, each with a listener on its form, and are replacements of `c`. -/
structure Adopted (p : Page) (c : ComponentId) (plans : List Plan) (reports : List Notice)
    (q : Page) : Prop where
  only : ∃ forms, q = { p with
    forms
    components :=
      p.components.modify c (Option.map (Component.replacedByAll
        (List.range' p.components.length plans.length))) ++
      plans.map fun plan => some (plan.component (p.nextListener plan.form))
    notices := p.notices ++ reports }
  untouched : ∀ f, f ∉ plans.map Plan.form → q.forms[f]? = p.forms[f]?
  wired : ∀ i plan, plans[i]? = some plan → q.forms[plan.form]? =
    (p.forms[plan.form]?).map (Form.install (.component (p.components.length + i)))

theorem Adopted.refl (p : Page) (c : ComponentId) : Adopted p c [] [] p where
  only := by
    have hsame : Component.replacedByAll [] = id := by
      funext k
      simp [Component.replacedByAll]
    exact ⟨p.forms, by simp [hsame, Option.map_id, List.modify_id]⟩
  untouched _ _ := rfl
  wired _ _ h := by cases h

variable {plans : List Plan} {first reports : List Notice}

/-- `Adopted` with a first host that has no plan. -/
theorem Adopted.skip (h : Adopted { p with notices := p.notices ++ first } c plans reports q) :
    Adopted p c plans (first ++ reports) q where
  only := by
    obtain ⟨forms, hq⟩ := h.only
    exact ⟨forms, by rw [hq, ← List.append_assoc]; rfl⟩
  untouched := h.untouched
  wired := h.wired

/-- A new component and the later ones as replacements of `c`. -/
private theorem modify_append_replaced {k : Component} (hc : c < p.components.length) (n m : Nat) :
    ((p.components ++ [some k]).modify c (Option.map (Component.replacedBy n))).modify c
        (Option.map (Component.replacedByAll (List.range' (n + 1) m))) =
      p.components.modify c (Option.map (Component.replacedByAll (List.range' n (m + 1)))) ++
        [some k] := by
  have hboth : Component.replacedByAll (List.range' (n + 1) m) ∘ Component.replacedBy n =
      Component.replacedByAll (List.range' n (m + 1)) := by
    funext k
    simp [Component.replacedByAll, Component.replacedBy, List.range'_succ]
  rw [List.modify_modify_eq, Option.map_comp_map, hboth]
  apply List.ext_getElem?
  intro d
  by_cases hd : d < p.components.length
  · rw [List.getElem?_append_left (by simpa using hd), List.getElem?_modify, List.getElem?_modify,
      List.getElem?_append_left hd]
  · have hne : c ≠ d := by
      rintro rfl
      exact hd hc
    rw [List.getElem?_append_right (by simpa using hd), List.getElem?_modify,
      List.getElem?_append_right (by simpa using hd), List.length_modify]
    simp [hne]

theorem nextListener_of_modify {f g : FormId} {change : Form → Form}
    (hq : q.forms = p.forms.modify f change) (hne : f ≠ g) :
    q.nextListener g = p.nextListener g := by
  rw [nextListener, nextListener, hq, List.getElem?_modify_ne _ _ hne]

/-- `Adopted` with a first host that has a plan. -/
theorem Adopted.cons {plan : Plan} (hc : c < p.components.length)
    (hnew : plan.form ∉ plans.map Plan.form)
    (h : Adopted { p with
      forms := p.forms.modify plan.form (Form.install (.component p.components.length))
      components := (p.components ++ [some (plan.component (p.nextListener plan.form))]).modify c
        (Option.map (Component.replacedBy p.components.length))
      notices := p.notices ++ first } c plans reports q) :
    Adopted p c (plan :: plans) (first ++ reports) q where
  only := by
    obtain ⟨forms, hq⟩ := h.only
    refine ⟨forms, ?_⟩
    have hlength : ((p.components ++ [some (plan.component (p.nextListener plan.form))]).modify c
        (Option.map (Component.replacedBy p.components.length))).length =
          p.components.length + 1 := by
      simp
    have hnumbers : plans.map (fun plan' => some (plan'.component (nextListener { p with
        forms := p.forms.modify plan.form (Form.install (.component p.components.length))
        components := (p.components ++ [some (plan.component (p.nextListener plan.form))]).modify c
          (Option.map (Component.replacedBy p.components.length))
        notices := p.notices ++ first } plan'.form))) =
        plans.map fun plan' => some (plan'.component (p.nextListener plan'.form)) := by
      apply List.map_congr_left
      intro plan' hplan'
      rw [nextListener_of_modify (p := p) rfl]
      intro heq
      exact hnew (heq ▸ List.mem_map_of_mem hplan')
    rw [hq]
    dsimp only
    rw [hnumbers, hlength, modify_append_replaced hc, List.append_assoc, List.append_assoc]
    rfl
  untouched f hf := by
    simp only [List.map_cons, List.mem_cons, not_or] at hf
    rw [h.untouched f hf.2]
    exact List.getElem?_modify_ne _ _ (Ne.symm hf.1)
  wired i plan' hi := by
    cases i with
    | zero =>
      -- the later plans have other forms
      cases hi
      rw [h.untouched plan.form hnew]
      exact List.getElem?_modify_eq _ _ _
    | succ i =>
      have hi' : plans[i]? = some plan' := hi
      have hne : plan.form ≠ plan'.form := by
        intro heq
        exact hnew (heq ▸ List.mem_map_of_mem (List.mem_of_getElem? hi'))
      have hwired := h.wired i plan' hi'
      dsimp only at hwired
      rw [hwired, List.getElem?_modify_ne _ _ hne, List.length_modify, List.length_append,
        List.length_singleton, Nat.add_assoc, Nat.add_comm 1 i]

theorem adopt_cons_of_error {e : ConfigError} (hplan : p.mountPlan h = .error e)
    (c : ComponentId) (rest : List HostId) :
    adopt c p (h :: rest) =
      adopt c { p with notices := p.notices ++ p.mountReports h } rest := by
  have hreports : p.notices ++ p.mountReports h =
      p.notices ++ p.delayReports h ++ [.notMounted e] := by
    rw [mountReports, hplan, List.append_assoc]
  rw [adopt, mount_eq_plan, hplan, hreports]
  rfl

theorem adopt_cons_of_ok {plan : Plan} (hplan : p.mountPlan h = .ok plan) (c : ComponentId)
    (rest : List HostId) :
    adopt c p (h :: rest) = adopt c { p with
      forms := p.forms.modify plan.form (Form.install (.component p.components.length))
      components := (p.components ++ [some (plan.component (p.nextListener plan.form))]).modify c
        (Option.map (Component.replacedBy p.components.length))
      notices := p.notices ++ p.mountReports h } rest := by
  have hreports : p.notices ++ p.mountReports h =
      p.notices ++ p.delayReports h ++ [.attached plan.config] := by
    rw [mountReports, hplan, List.append_assoc]
  rw [adopt, mount_eq_plan, hplan, hreports]
  rfl

/-- `adopt` mounts the components of the plans and logs the other hosts, if no two plans have the
same form. -/
theorem adopt_adopted (hosts : List HostId) (hc : c < p.components.length)
    (hforms : ((p.plans hosts).map Plan.form).Nodup) :
    Adopted p c (p.plans hosts) (hosts.flatMap p.mountReports) (adopt c p hosts) := by
  induction hosts generalizing p with
  | nil => exact .refl p c
  | cons h rest ih =>
    rw [List.flatMap_cons]
    cases hplan : p.mountPlan h with
    | error e =>
      rw [plans_cons_of_error hplan] at hforms ⊢
      rw [adopt_cons_of_error hplan]
      exact Adopted.skip (ih hc hforms)
    | ok plan =>
      rw [plans_cons_of_ok hplan] at hforms ⊢
      rw [adopt_cons_of_ok hplan]
      rw [List.map_cons, List.nodup_cons] at hforms
      exact Adopted.cons hc hforms.1 (ih (by simpa using Nat.lt_succ_of_lt hc) hforms.2)

/-! ## The components after an adoption -/

namespace Adopted

variable {k : Component}

/-- The adopting component has all new ones as replacements. -/
theorem component?_self (h : Adopted p c plans reports q) (hk : p.component? c = some k) :
    q.component? c =
      some (k.replacedByAll (List.range' p.components.length plans.length)) := by
  obtain ⟨forms, rfl⟩ := h.only
  have hlt := lt_of_component? hk
  rw [component?_eq_some, List.getElem?_append_left (by simpa using hlt), List.getElem?_modify_eq,
    component?_eq_some.1 hk]
  rfl

/-- A new component is that of its plan. -/
theorem component?_new (h : Adopted p c plans reports q) {i : Nat} {plan : Plan}
    (hi : plans[i]? = some plan) :
    q.component? (p.components.length + i) =
      some (plan.component (p.nextListener plan.form)) := by
  obtain ⟨forms, rfl⟩ := h.only
  rw [component?_eq_some, List.getElem?_append_right (by simp), List.length_modify,
    Nat.add_sub_cancel_left, List.getElem?_map, hi, Option.map_some]

/-- Every component was present before on the same host, or is on the host of a plan. -/
theorem host_cases (h : Adopted p c plans reports q) {d : ComponentId}
    (hk : q.component? d = some k) :
    (∃ k', p.component? d = some k' ∧ k.host = k'.host) ∨ k.host ∈ plans.map Plan.host := by
  obtain ⟨forms, rfl⟩ := h.only
  have hslot := component?_eq_some.1 hk
  by_cases hd : d < p.components.length
  · -- it was present before, and may be the adopting one
    rw [List.getElem?_append_left (by simpa using hd), List.getElem?_modify] at hslot
    obtain ⟨slot, hwas, hnow⟩ := Option.map_eq_some_iff.1 hslot
    left
    split at hnow
    · obtain ⟨k', rfl, rfl⟩ := Option.map_eq_some_iff.1 hnow
      exact ⟨k', component?_eq_some.2 hwas, rfl⟩
    · exact ⟨k, component?_eq_some.2 (hnow ▸ hwas), rfl⟩
  · rw [List.getElem?_append_right (by simpa using hd)] at hslot
    obtain ⟨plan, hplan, hk⟩ := List.mem_map.1 (List.mem_of_getElem? hslot)
    right
    rw [← Option.some.inj hk]
    exact List.mem_map_of_mem hplan

end Adopted

end Page

end FormSwap
