import FormSwap.Proofs.Connected
import FormSwap.Proofs.Depict
import FormSwap.Proofs.Mounting
import FormSwap.Proofs.Release

/-!
# The replacements of a component

A response that replaces the host of a component may have any number of hosts. No two of them share
a form, and their forms have no listeners. So the components that are mounted on them are
independent, and each of those hosts gets the component that it would get alone.

Main definitions:

- `Page.MountedOn`: a component as it was mounted on a host

Main results:

- `Page.addFragments_forms`, `Page.setOuterHtml_forms`: the forms of new hosts
- `Page.swapOuter_outerSwapped`: the effect of an outer swap on the components
- `Page.replacements_are_the_mountable_hosts`: a component gets one replacement on each mountable
  host, and each other host is logged
-/

namespace FormSwap

open FormSwap.Markup

namespace Page

/-! ## Forms of new hosts -/

/-- `freshForm data` is a form that was just parsed. -/
def freshForm (data : FormData) : Form :=
  { data }

/-- `readContent` adds the form that its content has. -/
theorem readContent_fresh (p : Page) (markup : String) :
    ∃ read : List FormData, (p.readContent markup).1.forms = p.forms ++ read.map freshForm ∧
      (p.readContent markup).2.form?.toList = List.range' p.forms.length read.length := by
  unfold readContent
  split
  · exact ⟨[], by simp, rfl⟩
  · next data _ => exact ⟨[data], rfl, rfl⟩

/-- `addFragments` adds forms, one for each new host that has one, in order. -/
theorem addFragments_forms (d : DocumentId) (p : Page) (l : List Fragment) :
    ∃ read : List FormData, (addFragments d p l).1.forms = p.forms ++ read.map freshForm ∧
      ((addFragments d p l).2.filterMap Child.host?).filterMap (addFragments d p l).1.queryForm =
        List.range' p.forms.length read.length := by
  induction l generalizing p with
  | nil => exact ⟨[], by simp [addFragments], rfl⟩
  | cons fragment rest ih =>
    cases fragment with
    | text s => exact ih p
    | host tag inner closed =>
      obtain ⟨own, hown, hform⟩ := p.readContent_fresh (String.ofList inner)
      simp only [addFragments]
      generalize p.readContent (String.ofList inner) = read at hown hform ⊢
      generalize hnew : ({ attributes := readAttributes tag, content := read.2, parent := some d } :
        Host) = host
      have hcontent : host.content = read.2 := by rw [← hnew]
      -- the host is last, and the later fragments preserve it
      have hlast : (read.1.addHost host).1.hosts[(read.1.addHost host).2]? = some host := by
        simp [addHost]
      have hkept : (read.1.addHost host).1.forms = read.1.forms := rfl
      generalize read.1.addHost host = added at hlast hkept ⊢
      obtain ⟨more, hmore, hforms⟩ := ih added.1
      have hquery : (addFragments d added.1 rest).1.queryForm added.2 = read.2.form? := by
        rw [queryForm, (addFragments_grown d added.1 rest).host hlast, Option.bind_some, hcontent]
      refine ⟨own ++ more, ?_, ?_⟩
      · rw [hmore, hkept, hown, List.map_append, List.append_assoc]
      · have hlength : added.1.forms.length = p.forms.length + own.length := by
          rw [hkept, hown, List.length_append, List.length_map]
        have hcons (l : List HostId) : (added.2 :: l).filterMap
            (addFragments d added.1 rest).1.queryForm = read.2.form?.toList ++
              l.filterMap (addFragments d added.1 rest).1.queryForm := by
          rw [List.filterMap_cons, hquery]
          cases read.2.form? <;> rfl
        have hhost : Child.host? (.host added.2) = some added.2 := rfl
        rw [List.filterMap_cons_some hhost, hcons, hform, hforms, hlength, List.length_append,
          List.range'_append_1]

theorem queryForm_modifyHost (p : Page) (h : HostId) {change : Host → Host}
    (hchange : ∀ host, (change host).content = host.content) (i : HostId) :
    (p.modifyHost h change).queryForm i = p.queryForm i := by
  rw [queryForm, queryForm, modifyHost, List.getElem?_modify]
  cases p.hosts[i]? with
  | none => rfl
  | some host => by_cases hi : h = i <;> simp [hi, hchange]

/-- `setOuterHtml` adds forms, one for each inserted host that has one, in order. -/
theorem setOuterHtml_forms {p : Page} {h : HostId} {markup : String} {r : Replacement}
    (hr : p.setOuterHtml h markup = .ok r) :
    ∃ read : List FormData, r.page.forms = p.forms ++ read.map freshForm ∧
      r.inserted.filterMap r.page.queryForm = List.range' p.forms.length read.length := by
  obtain ⟨host, hhost, -⟩ := (setOuterHtml_received hr).2.1
  obtain ⟨-, hinserted, hpage⟩ := setOuterHtml_eq hr hhost
  obtain ⟨read, hforms, hqueries⟩ := addFragments_forms r.parent p (fragments markup.toList)
  refine ⟨read, ?_, ?_⟩
  · rw [hpage]
    exact hforms
  · have hquery : r.page.queryForm =
        (addFragments r.parent p (fragments markup.toList)).1.queryForm := by
      funext i
      rw [hpage]
      refine (queryForm_modifyHost _ h ?_ i).trans rfl
      exact fun _ => rfl
    rw [hinserted, hquery, hqueries]

/-! ## Inserted hosts -/

/-- `splice` inserts the new children contiguously. -/
theorem infix_splice {h : HostId} {children : List Child} (hmem : .host h ∈ children)
    (new : List Child) : new <:+: splice h new children := by
  induction children with
  | nil => cases hmem
  | cons child rest ih =>
    rw [splice]
    split
    · exact (List.prefix_append new rest).isInfix
    · next hne =>
      rcases List.mem_cons.1 hmem with heq | hrest
      · exact absurd heq.symm hne
      · exact (ih hrest).trans (List.suffix_cons child _).isInfix

/-- `setOuterHtml` replaces a child of the parent that it returns. -/
theorem setOuterHtml_place {p : Page} {h : HostId} {markup : String} {r : Replacement}
    (hr : p.setOuterHtml h markup = .ok r) :
    ∃ doc, p.document? r.parent = some doc ∧ .host h ∈ doc.children := by
  unfold setOuterHtml at hr
  split at hr
  · cases hr
  split at hr
  · cases hr
  split at hr
  · cases hr
  rename_i doc hdoc
  split at hr
  · next hmem =>
    cases hr
    exact ⟨doc, hdoc, List.contains_iff_mem.1 hmem⟩
  · cases hr

/-- The inserted hosts are distinct, and a sublist of the hosts of their document. -/
theorem setOuterHtml_inserted {p : Page} {h : HostId} {markup : String} {r : Replacement}
    (hr : p.setOuterHtml h markup = .ok r) :
    r.inserted.Nodup ∧ r.inserted.Sublist (r.page.hostsOf r.parent) := by
  obtain ⟨host, hhost, -⟩ := (setOuterHtml_received hr).2.1
  obtain ⟨hparent, hinserted, hpage⟩ := setOuterHtml_eq hr hhost
  obtain ⟨n, -, hfresh⟩ := addFragments_links r.parent p (fragments markup.toList)
  obtain ⟨doc, hdoc, hmem⟩ := setOuterHtml_place hr
  rw [hinserted]
  constructor
  · rw [hfresh]
    exact List.nodup_range'
  · have hchildren : (r.page.document? r.parent).map (·.children) =
        some (splice h (addFragments r.parent p (fragments markup.toList)).2 doc.children) := by
      have hkept : (addFragments r.parent p (fragments markup.toList)).1.document? r.parent =
          some doc := by
        rw [document?, addFragments_documents]
        exact hdoc
      rw [hpage]
      show (document? (modifyDocument _ r.parent _) r.parent).map (·.children) = _
      rw [document?_modifyDocument, if_pos rfl, hkept]
      rfl
    rw [hostsOf, hchildren, Option.getD_some]
    exact (infix_splice hmem _).sublist.filterMap _

/-- Hosts that share no form are equal if their forms are. -/
theorem eq_of_queryForm {p : Page} {hosts : List HostId} {h h' : HostId} {f : FormId}
    (hnodup : (hosts.filterMap p.queryForm).Nodup) (hh : h ∈ hosts) (hh' : h' ∈ hosts)
    (hf : p.queryForm h = some f) (hf' : p.queryForm h' = some f) : h = h' := by
  induction hosts with
  | nil => cases hh
  | cons first rest ih =>
    have hmem {i : HostId} (hi : i ∈ rest) (hq : p.queryForm i = some f) :
        f ∈ rest.filterMap p.queryForm := List.mem_filterMap.2 ⟨i, hi, hq⟩
    rcases List.mem_cons.1 hh with rfl | hrest
    · rcases List.mem_cons.1 hh' with rfl | hrest'
      · rfl
      · rw [List.filterMap_cons_some hf, List.nodup_cons] at hnodup
        exact absurd (hmem hrest' hf') hnodup.1
    · rcases List.mem_cons.1 hh' with rfl | hrest'
      · rw [List.filterMap_cons_some hf', List.nodup_cons] at hnodup
        exact absurd (hmem hrest hf) hnodup.1
      · apply ih _ hrest hrest'
        exact hnodup.sublist ((List.sublist_cons_self first rest).filterMap _)

/-- `formsWithout` does not change a fresh form. -/
theorem formsWithout_fresh {p : Page} {f : FormId} {data : FormData}
    (hf : p.forms[f]? = some (freshForm data)) (l : Option ListenerRef) :
    (p.formsWithout l)[f]? = some (freshForm data) := by
  cases l with
  | none => exact hf
  | some l =>
    simp only [formsWithout, removeListener, modifyForm, List.getElem?_modify, hf]
    by_cases hl : l.form = f <;> simp [hl, freshForm]

/-! ## The effect of an outer swap -/

/-- `p.retiring c k` is `p` after `c`, which was `k`, released its form and was detached. -/
def retiring (p : Page) (c : ComponentId) (k : Component) : Page :=
  { p with
    forms := p.formsWithout k.listener
    components := p.components.modify c (Option.map Component.retired) }

/-- `OuterSwapped p c k r q`: `q` is the page after `c`, which was `k` on `p`, adopted the hosts
that `r` inserted. -/
structure OuterSwapped (p : Page) (c : ComponentId) (k : Component) (r : Replacement) (q : Page) :
    Prop where
  faults : q.faults = p.faults
  hosts : ∀ i, i ≠ k.host → q.hosts[i]? = r.page.hosts[i]?
  children : ∀ d, (q.document? d).map (·.children) = (r.page.document? d).map (·.children)
  component : ∃ k', q.component? c = some k' ∧ k'.host = k.host ∧ k'.replacements =
    k.replacements ++ List.range' p.components.length (r.page.plans r.inserted).length
  others : ∀ d k', q.component? d = some k' →
    k'.host < p.hosts.length ∨ k'.host ∈ (r.page.plans r.inserted).map Plan.host
  mounted : ∀ i plan, (r.page.plans r.inserted)[i]? = some plan →
    q.component? (p.components.length + i) = some (plan.component 0) ∧
    (q.forms[plan.form]?).map (·.listeners) = some [⟨0, .component (p.components.length + i)⟩]
  bare : ∀ f, p.forms.length ≤ f → f < r.page.forms.length →
    f ∉ (r.page.plans r.inserted).map Plan.form → (q.forms[f]?).map (·.listeners) = some []
  reports : ∃ reports, q.notices = p.notices ++ reports ∧
    reports.filterMap Notice.refusal? =
      (r.inserted.flatMap r.page.mountReports).filterMap Notice.refusal?

section Swap

variable {p q : Page} {c : ComponentId} {k : Component} {r : Replacement} {body : String}
  {n : Notification}

theorem component?_retiring (p : Page) (c : ComponentId) (k : Component) (d : ComponentId) :
    (p.retiring c k).component? d =
      if c = d then (p.component? d).map Component.retired else p.component? d :=
  component?_of_modify rfl d

/-- The forms of the inserted hosts are fresh. -/
theorem retiring_fresh (hr : p.setOuterHtml k.host body = .ok r) {f : FormId}
    (hle : p.forms.length ≤ f) (hlt : f < r.page.forms.length) :
    ∃ data, (r.page.retiring c k).forms[f]? = some (freshForm data) := by
  obtain ⟨read, hforms, -⟩ := setOuterHtml_forms hr
  have hin : f - p.forms.length < read.length := by
    rw [hforms, List.length_append, List.length_map] at hlt
    exact Nat.sub_lt_left_of_lt_add hle hlt
  refine ⟨read[f - p.forms.length], formsWithout_fresh ?_ _⟩
  rw [hforms, List.getElem?_append_right hle, List.getElem?_map, List.getElem?_eq_getElem hin,
    Option.map_some]

/-- The plans of the inserted hosts have distinct new forms. -/
theorem plan_form_fresh (hr : p.setOuterHtml k.host body = .ok r) :
    ((r.page.plans r.inserted).map Plan.form).Nodup ∧
      ∀ plan ∈ r.page.plans r.inserted,
        p.forms.length ≤ plan.form ∧ plan.form < r.page.forms.length := by
  obtain ⟨read, hforms, hqueries⟩ := setOuterHtml_forms hr
  have hpipe := r.page.map_form_plans_sublist r.inserted
  rw [hqueries] at hpipe
  refine ⟨hpipe.nodup List.nodup_range', fun plan hplan => ?_⟩
  have hmem := hpipe.subset (List.mem_map_of_mem hplan)
  rw [List.mem_range'_1] at hmem
  rw [hforms, List.length_append, List.length_map]
  exact hmem

/-- `swapOuter` as `setOuterHtml`, `retiring`, `adopt` and `dispatchDocument`. -/
theorem swapOuter_eq (hk : p.component? c = some k)
    (hq : p.swapOuter c k.host body n = .ok q) :
    ∃ r, p.setOuterHtml k.host body = .ok r ∧
      q = (adopt c (r.page.retiring c k) r.inserted).dispatchDocument r.parent n := by
  unfold swapOuter at hq
  split at hq
  · cases hq
  rename_i r hr
  cases hq
  refine ⟨r, hr, ?_⟩
  have hk' : r.page.component? c = some k := ((setOuterHtml_kept hr).1.component? c).trans hk
  rw [retire_eq hk']
  rfl

/-- `adopt` after `retiring` mounts the plans of the inserted hosts. -/
theorem adopt_retiring (hk : p.component? c = some k) (hr : p.setOuterHtml k.host body = .ok r) :
    Adopted (r.page.retiring c k) c (r.page.plans r.inserted)
      (r.inserted.flatMap r.page.mountReports) (adopt c (r.page.retiring c k) r.inserted) := by
  have hplans : (r.page.retiring c k).plans r.inserted = r.page.plans r.inserted := rfl
  have hk' : r.page.component? c = some k := ((setOuterHtml_kept hr).1.component? c).trans hk
  have hplaced : c < (r.page.retiring c k).components.length := by
    rw [retiring, List.length_modify]
    exact lt_of_component? hk'
  rw [← hplans]
  apply adopt_adopted r.inserted hplaced
  rw [hplans]
  exact (plan_form_fresh hr).1

/-- `Adopted` after `retiring` implies `OuterSwapped`. -/
theorem Adopted.outerSwapped (hp : p.HostsKnown)
    (hk : p.component? c = some k) (hr : p.setOuterHtml k.host body = .ok r)
    (h : Adopted (r.page.retiring c k) c (r.page.plans r.inserted)
      (r.inserted.flatMap r.page.mountReports) q) : OuterSwapped p c k r q := by
  have hkept := (setOuterHtml_kept hr).1
  obtain ⟨documents, hosts, forms, hpage⟩ := hkept.only
  obtain ⟨forms', hq⟩ := h.only
  have hlength : (r.page.retiring c k).components.length = p.components.length := by
    rw [retiring, List.length_modify, hpage]
  constructor
  case faults =>
    rw [hq, retiring, hpage]
  case hosts =>
    intro i _
    rw [hq, retiring]
  case children =>
    intro d
    rw [hq, retiring]
    rfl
  case component =>
    have hself : (r.page.retiring c k).component? c = some k.retired := by
      rw [component?_retiring, if_pos rfl, hkept.component?, hk, Option.map_some]
    refine ⟨_, h.component?_self hself, rfl, ?_⟩
    rw [hlength]
    rfl
  case others =>
    intro d k' hk'
    rcases h.host_cases hk' with ⟨k₁, hk₁, hhost⟩ | hnew
    · left
      rw [component?_retiring, hkept.component?] at hk₁
      split at hk₁
      · obtain ⟨k₀, hk₀, rfl⟩ := Option.map_eq_some_iff.1 hk₁
        exact hhost ▸ hp d k₀ hk₀
      · exact hhost ▸ hp d k₁ hk₁
    · exact .inr hnew
  case mounted =>
    -- the form is new, so the component's listener is its first
    intro i plan hi
    obtain ⟨hle, hlt⟩ := (plan_form_fresh hr).2 plan (List.mem_of_getElem? hi)
    obtain ⟨data, hdata⟩ := retiring_fresh (c := c) hr hle hlt
    have hfirst : (r.page.retiring c k).nextListener plan.form = 0 := by
      rw [nextListener, hdata]
      rfl
    have hcame := h.component?_new hi
    have hwired := h.wired i plan hi
    rw [hlength, hfirst] at hcame
    rw [hlength, hdata] at hwired
    refine ⟨hcame, ?_⟩
    rw [hwired]
    rfl
  case bare =>
    intro f hle hlt hnot
    obtain ⟨data, hdata⟩ := retiring_fresh (c := c) hr hle hlt
    rw [h.untouched f hnot, hdata]
    rfl
  case reports =>
    refine ⟨r.inserted.flatMap r.page.mountReports, ?_, rfl⟩
    rw [hq, retiring, hpage]

/-- `dispatchDocument` preserves `OuterSwapped`. -/
theorem OuterSwapped.dispatchDocument (h : OuterSwapped p c k r q) (d : DocumentId) :
    OuterSwapped p c k r (q.dispatchDocument d n) where
  faults := h.faults
  hosts := h.hosts
  children i := by
    rw [← h.children i, Page.dispatchDocument, document?_modifyDocument]
    split
    · rw [Option.map_map]
      rfl
    · rfl
  component := h.component
  others := h.others
  mounted := h.mounted
  bare := h.bare
  reports := h.reports

/-- `swapOuter` yields `OuterSwapped`. -/
theorem swapOuter_outerSwapped (hp : p.HostsKnown) (hk : p.component? c = some k)
    (hq : p.swapOuter c k.host body n = .ok q) :
    ∃ r, p.setOuterHtml k.host body = .ok r ∧ OuterSwapped p c k r q := by
  obtain ⟨r, hr, rfl⟩ := swapOuter_eq hk hq
  exact ⟨r, hr, ((adopt_retiring hk hr).outerSwapped hp hk hr).dispatchDocument r.parent⟩

/-! ## The settle delay -/

/-- `leaveSubmitting` logs no failed mount. -/
theorem leaveSubmitting_notices (p : Page) (c : ComponentId) :
    ∃ tail, (p.leaveSubmitting c).notices = p.notices ++ tail ∧
      tail.filterMap Notice.refusal? = [] := by
  unfold leaveSubmitting
  split
  · exact ⟨[], by simp, rfl⟩
  · dsimp only
    unfold removeAttribute
    split
    · rename_i hq
      split at hq
      · cases hq
      · cases hq
        exact ⟨[], by simp [modifyHost, modifyComponent], rfl⟩
    · rename_i e _
      exact ⟨[.notUnmarked e], rfl, rfl⟩

theorem settle_notices (p : Page) (s : PipelineId) (c : ComponentId) (sleep : Sleep) :
    ∃ tail, (p.settle s c sleep).notices = p.notices ++ tail ∧
      tail.filterMap Notice.refusal? = [] := by
  unfold settle
  split
  · exact leaveSubmitting_notices { p with clock := _ } c
  · exact ⟨[], by simp [setStage, modifyPipeline], rfl⟩

theorem OuterSwapped.note (h : OuterSwapped p c k r q) {notice : Notice}
    (hn : notice.refusal? = none) :
    OuterSwapped p c k r (q.note notice) where
  faults := h.faults
  hosts := h.hosts
  children := h.children
  component := h.component
  others := h.others
  mounted := h.mounted
  bare := h.bare
  reports := by
    obtain ⟨reports, hreports, hrefusals⟩ := h.reports
    refine ⟨reports ++ [notice], ?_, ?_⟩
    · rw [Page.note, hreports, List.append_assoc]
    · rw [List.filterMap_append, hrefusals, List.filterMap_cons_none hn, List.filterMap_nil,
        List.append_nil]

/-- `settle` preserves `OuterSwapped`. -/
theorem OuterSwapped.settle (h : OuterSwapped p c k r q) (s : PipelineId) (sleep : Sleep) :
    OuterSwapped p c k r (q.settle s c sleep) := by
  have hreports : ∃ reports, (q.settle s c sleep).notices = p.notices ++ reports ∧
      reports.filterMap Notice.refusal? =
        (r.inserted.flatMap r.page.mountReports).filterMap Notice.refusal? := by
    obtain ⟨reports, hreports, hrefusals⟩ := h.reports
    obtain ⟨tail, htail, hnone⟩ := settle_notices q s c sleep
    refine ⟨reports ++ tail, ?_, ?_⟩
    · rw [htail, hreports, List.append_assoc]
    · rw [List.filterMap_append, hrefusals, hnone, List.append_nil]
  have hsettled := settle_settled q s c sleep
  generalize q.settle s c sleep = q' at hreports hsettled ⊢
  cases hsettled with
  | sleeps sleep' clock =>
    exact ⟨h.faults, h.hosts, h.children, h.component, h.others, h.mounted, h.bare, hreports⟩
  | endsGone hk clock =>
    exact ⟨h.faults, h.hosts, h.children, h.component, h.others, h.mounted, h.bare, hreports⟩
  | @ends k₀ hk₀ clock notices =>
    obtain ⟨k', hk', hhost, hreplacements⟩ := h.component
    obtain rfl : k₀ = k' := Option.some.inj (hk₀.symm.trans hk')
    constructor
    case faults => exact h.faults
    case children => exact h.children
    case bare => exact h.bare
    case reports => exact hreports
    case hosts =>
      -- the attribute is on the replaced host
      intro i hi
      have hne : k₀.host ≠ i := by
        rw [hhost]
        exact Ne.symm hi
      exact (getElem?_hostsUnmarking hne).trans (h.hosts i hi)
    case component =>
      refine ⟨k₀.madeIdle, ?_, hhost, hreplacements⟩
      rw [component?_of_modify (p := q) rfl, if_pos rfl, hk₀, Option.map_some]
    case others =>
      intro d k₁ hk₁
      rw [component?_of_modify (p := q) rfl] at hk₁
      split at hk₁
      · obtain ⟨k₂, hk₂, rfl⟩ := Option.map_eq_some_iff.1 hk₁
        exact h.others d k₂ hk₂
      · exact h.others d k₁ hk₁
    case mounted =>
      intro i plan hi
      obtain ⟨hcame, hwired⟩ := h.mounted i plan hi
      refine ⟨?_, hwired⟩
      rw [component?_of_modify (p := q) rfl, hcame]
      split <;> rfl

/-- `conclude` preserves `OuterSwapped`. -/
theorem OuterSwapped.conclude (h : OuterSwapped p c k r q) (s : PipelineId)
    (result : Except SubmitError Nat) : OuterSwapped p c k r (q.conclude s c result) := by
  have hquiet : (resultNotice result).refusal? = none := by
    cases result with
    | ok fields => rfl
    | error e => cases e <;> rfl
  exact (h.note hquiet).settle s _

end Swap

/-! ## One component for each mountable host -/

/-- `p.MountedOn c h`: `c` is idle, configured from the attributes of `h`, and the only listener on
the form in `h`. -/
def MountedOn (p : Page) (c : ComponentId) (h : HostId) : Prop :=
  ∃ f resolved, p.queryForm h = some f ∧ Config.ofAttributes (p.getAttribute h) = .ok resolved ∧
    p.component? c =
      some { host := h, config := resolved.config, form := some f, listener := some ⟨f, 0⟩ } ∧
    (p.forms[f]?).map (·.listeners) = some [⟨0, .component c⟩]

/-- `p.Bare h`: no component is on `h`, and the form in it has no listener. -/
def Bare (p : Page) (h : HostId) : Prop :=
  (∀ c k, p.component? c = some k → k.host ≠ h) ∧
    ∀ f, p.queryForm h = some f → (p.forms[f]?).map (·.listeners) = some []

namespace OuterSwapped

variable {p q : Page} {c : ComponentId} {k : Component} {r : Replacement} {body : String}
  {h : HostId}

theorem host_eq (hq : OuterSwapped p c k r q) (hk : k.host < p.hosts.length)
    (hr : p.setOuterHtml k.host body = .ok r) (hh : h ∈ r.inserted) :
    q.hosts[h]? = r.page.hosts[h]? := by
  apply hq.hosts
  have hle := ((setOuterHtml_kept hr).2 h hh).1
  intro heq
  rw [heq] at hle
  exact absurd hk (Nat.not_lt.2 hle)

/-- `mountPlan` of an inserted host is the same after the swap. -/
theorem mountPlan_eq (hq : OuterSwapped p c k r q) (hk : k.host < p.hosts.length)
    (hr : p.setOuterHtml k.host body = .ok r) (hh : h ∈ r.inserted) :
    q.mountPlan h = r.page.mountPlan h := by
  obtain ⟨_, _, _, hpage⟩ := (setOuterHtml_kept hr).1.only
  apply mountPlan_congr (hq.host_eq hk hr hh)
  rw [hq.faults, hpage]

theorem mountable_eq (hq : OuterSwapped p c k r q) (hk : k.host < p.hosts.length)
    (hr : p.setOuterHtml k.host body = .ok r) (hh : h ∈ r.inserted) :
    q.mountable h = r.page.mountable h := by
  rw [← isOk_mountPlan, hq.mountPlan_eq hk hr hh, isOk_mountPlan]

theorem queryForm_eq (hq : OuterSwapped p c k r q) (hk : k.host < p.hosts.length)
    (hr : p.setOuterHtml k.host body = .ok r) (hh : h ∈ r.inserted) :
    q.queryForm h = r.page.queryForm h := by
  rw [queryForm, queryForm, hq.host_eq hk hr hh]

/-- The mountable inserted hosts have one new component each, in order. -/
theorem mountedOn (hq : OuterSwapped p c k r q) (hk : k.host < p.hosts.length)
    (hr : p.setOuterHtml k.host body = .ok r) :
    List.Forall₂ q.MountedOn
      (List.range' p.components.length (r.page.plans r.inserted).length)
      (r.inserted.filter q.mountable) := by
  have hfit : r.inserted.filter q.mountable = (r.page.plans r.inserted).map Plan.host := by
    rw [map_host_plans]
    apply List.filter_congr
    intro h hh
    rw [hq.mountable_eq hk hr hh]
  rw [hfit]
  apply List.forall₂_of_length_eq_of_get
  · simp
  · intro i hi hi'
    rw [List.length_map] at hi'
    have hplan : (r.page.plans r.inserted)[i]? = some (r.page.plans r.inserted)[i] :=
      List.getElem?_eq_getElem hi'
    obtain ⟨h, hh, hmount⟩ := mem_plans.1 (List.mem_of_getElem? hplan)
    obtain ⟨hcame, hwired⟩ := hq.mounted i _ hplan
    have hmount := (hq.mountPlan_eq hk hr hh).trans hmount
    obtain ⟨hhost, hform, resolved, hresolved, hconfig⟩ := mountPlan_eq_ok hmount
    simp only [List.get_eq_getElem, List.getElem_range', List.getElem_map, Nat.one_mul]
    rw [hhost]
    refine ⟨_, resolved, hform, hresolved, ?_, hwired⟩
    rw [hcame, Plan.component, hhost, hconfig]
    rfl

/-- The other inserted hosts are `Bare`. -/
theorem bare_of_not_mountable (hq : OuterSwapped p c k r q) (hk : k.host < p.hosts.length)
    (hr : p.setOuterHtml k.host body = .ok r) (hh : h ∈ r.inserted)
    (hnot : q.mountable h = false) : q.Bare h := by
  have hunfit : r.page.mountable h = false := by rw [← hq.mountable_eq hk hr hh, hnot]
  obtain ⟨read, hforms, hqueries⟩ := setOuterHtml_forms hr
  constructor
  · rintro d k' hk' rfl
    rcases hq.others d k' hk' with hold | hnew
    · exact absurd hold (Nat.not_lt.2 ((setOuterHtml_kept hr).2 _ hh).1)
    · rw [map_host_plans, List.mem_filter, hunfit] at hnew
      cases hnew.2
  · intro f hf
    rw [hq.queryForm_eq hk hr hh] at hf
    have hmem : f ∈ List.range' p.forms.length read.length := by
      rw [← hqueries]
      exact List.mem_filterMap.2 ⟨h, hh, hf⟩
    rw [List.mem_range'_1] at hmem
    apply hq.bare f hmem.1
    · rw [hforms, List.length_append, List.length_map]
      exact hmem.2
    · -- no other inserted host has this form
      intro hplanned
      obtain ⟨plan, hplan, rfl⟩ := List.mem_map.1 hplanned
      obtain ⟨h', hh', hmount⟩ := mem_plans.1 hplan
      have hnodup : (r.inserted.filterMap r.page.queryForm).Nodup := by
        rw [hqueries]
        exact List.nodup_range'
      obtain rfl := eq_of_queryForm hnodup hh hh' hf (mountPlan_eq_ok hmount).2.1
      rw [mountable_of_ok hmount] at hunfit
      cases hunfit

/-- Each of the other inserted hosts is logged once. -/
theorem refusals (hq : OuterSwapped p c k r q) (hk : k.host < p.hosts.length)
    (hr : p.setOuterHtml k.host body = .ok r) :
    ∃ reports, q.notices = p.notices ++ reports ∧
      List.Forall₂ (fun h e => q.mountPlan h = .error e)
        (r.inserted.filter fun h => !q.mountable h) (reports.filterMap Notice.refusal?) := by
  obtain ⟨reports, hnotices, hrefusals⟩ := hq.reports
  refine ⟨reports, hnotices, ?_⟩
  have hunfit : (r.inserted.filter fun h => !q.mountable h) =
      r.inserted.filter fun h => !r.page.mountable h := by
    apply List.filter_congr
    intro h hh
    rw [hq.mountable_eq hk hr hh]
  rw [hrefusals, hunfit]
  have hin : ∀ h ∈ r.inserted.filter fun h => !r.page.mountable h, h ∈ r.inserted :=
    fun h hh => (List.mem_filter.1 hh).1
  refine ((List.forall₂_and_left _ _).2 ⟨hin, r.page.refusals_of_reports r.inserted⟩).imp ?_
  rintro h e ⟨hh, hmount⟩
  rw [hq.mountPlan_eq hk hr hh, hmount]

end OuterSwapped

/-- A poll with an outer swap yields `OuterSwapped`. -/
theorem poll_outerSwapped {p : Page} {s : PipelineId} {pipe : Pipeline} {k : Component} {n : Nat}
    (hp : p.Visited) (hpipe : p.pipelines[s]? = some pipe) (hk : p.component? pipe.owner = some k)
    (hc : k.config.swap = .outer) (hok : p.verdict s = some (.ok n)) :
    ∃ response transport r, p.outcomeOf s = some (.ok response) ∧
      ({ p with transport } : Page).setOuterHtml k.host response.body = .ok r ∧
      OuterSwapped { p with transport } pipe.owner k r (p.poll s) := by
  obtain ⟨payload, response, transport, q, h⟩ := poll_succeeds hpipe hok
  have hq := h.applied
  unfold applyResponse at hq
  rw [show ({ p with transport } : Page).component? pipe.owner = some k from hk] at hq
  dsimp only at hq
  rw [hc] at hq
  split at hq
  · split at hq
    · rename_i hswap
      cases hq
      obtain ⟨r, hr, houterSwapped⟩ :=
        swapOuter_outerSwapped (p := { p with transport }) hp.hostsKnown hk hswap
      refine ⟨response, transport, r, h.answered, hr, ?_⟩
      rw [h.polled]
      exact houterSwapped.conclude s _
    · cases hq
  · cases hq

/-- A component has no replacements before its host is replaced. -/
theorem unreplaced_of_swapsOut {actions : List Action} {m : Moment} {c : ComponentId}
    (hm : m ∈ trace {} actions) (hswaps : m.swapsOut c = true) : m.page.Unreplaced c := by
  have halong := trace_along {} actions
  have hvisited : ∀ n ∈ trace {} actions, n.page.Visited := fun n hn => visited_of_mem hn
  have hcount := halong.swapsOut_le_one (c := c) hvisited
  obtain ⟨before, after, hrun⟩ := List.append_of_mem hm
  rw [hrun] at halong hvisited hcount
  have hearlier : ∀ n ∈ before, n.swapsOut c = false :=
    fun n hn => eq_false_of_countP_le_one hcount hswaps hn
  apply halong.split.1.unreplaced (fun n hn => hvisited n (by simp [hn])) hearlier
  intro k hk
  cases hk

/-- In every run, let a response replace the host of a component. Of the inserted hosts, the
mountable ones have one component each, and these are the replacements of the component, in the
order of the hosts. Each is `MountedOn` its host: idle, configured from its attributes, and the only
listener on its form. Each other host has neither a component nor a listener, and there is one
notice about it, with the error. All of them are children of the document. -/
theorem replacements_are_the_mountable_hosts {actions : List Action} {m : Moment}
    (hm : m ∈ trace {} actions) {c : ComponentId} (hswaps : m.swapsOut c = true) :
    ∃ (s : PipelineId) (k : Component) (response : Response) (transport : MockTransport)
      (r : Replacement) (replacements : List ComponentId) (reports : List Notice) (q : Page),
      m.event = .poll s ∧ m.page.poll s = q ∧
      m.page.component? c = some k ∧ m.page.outcomeOf s = some (.ok response) ∧
      ({ m.page with transport } : Page).setOuterHtml k.host response.body = .ok r ∧
      r.inserted.Nodup ∧ r.inserted.Sublist (q.hostsOf r.parent) ∧
      (q.component? c).map (·.replacements) = some replacements ∧ replacements.Nodup ∧
      List.Forall₂ q.MountedOn replacements (r.inserted.filter q.mountable) ∧
      (∀ h ∈ r.inserted, q.mountable h = false → q.Bare h) ∧
      q.notices = m.page.notices ++ reports ∧
      List.Forall₂ (fun h e => q.mountPlan h = .error e)
        (r.inserted.filter fun h => !q.mountable h) (reports.filterMap Notice.refusal?) := by
  obtain ⟨s, pipe, k, n, hpolled, hpipe, rfl, hk, hc, hok⟩ := Moment.swapsOut_iff.mp hswaps
  have hvisited : m.page.Visited := visited_of_mem hm
  have hnone : k.replacements = [] := unreplaced_of_swapsOut hm hswaps k hk
  obtain ⟨response, transport, r, houtcome, hr, hq⟩ := poll_outerSwapped hvisited hpipe hk hc hok
  have hhost : k.host < m.page.hosts.length := hvisited.hostsKnown _ k hk
  obtain ⟨k', hk', -, hreplacements⟩ := hq.component
  obtain ⟨reports, hnotices, hrefusals⟩ := hq.refusals hhost hr
  obtain ⟨hnodup, hstand⟩ := setOuterHtml_inserted hr
  refine ⟨s, k, response, transport, r, _, reports, _, hpolled, rfl, hk, houtcome, hr, hnodup,
    ?_, ?_, List.nodup_range', hq.mountedOn hhost hr,
    fun h hh => hq.bare_of_not_mountable hhost hr hh, hnotices, hrefusals⟩
  · rw [hostsOf, hq.children]
    exact hstand
  · rw [hk', Option.map_some, hreplacements, hnone, List.nil_append]

/-- A response with four hosts. The second has an invalid swap mode and the third no form; there is
a replacement on the fourth. -/
theorem replacements_among_unfit_hosts :
    let run := trace {} [.newForm { action := "/save", method := "post" },
      .newHost [] (some 0) none false, .append 0 0,
      .createWith 0 { swap := .outer, delay := .ofMillis 10 }, .attach 0,
      .reply (.ok ⟨.ok, "<ajax-form><form action='/a'></form></ajax-form>" ++
        "<ajax-form swap='none'><form></form></ajax-form>" ++ "<ajax-form>none</ajax-form>" ++
        "<ajax-form swap='innerHTML'><form action='/b'></form></ajax-form>"⟩),
      .handleSubmit 0 none, .run]
    ∃ m ∈ run, m.swapsOut 0 = true ∧
      ∃ q h₁ h₂ h₃ h₄, q = m.event.effect m.page ∧
        (q.component? 0).map (·.replacements) = some [1, 2] ∧
        q.MountedOn 1 h₁ ∧ q.MountedOn 2 h₄ ∧
        q.Bare h₂ ∧ q.mountPlan h₂ = .error (.invalidSwap "none") ∧
        q.Bare h₃ ∧ q.mountPlan h₃ = .error .formNotFound := by
  intro run
  have hany : (run.any fun m => m.swapsOut 0 &&
      ((m.event.effect m.page).component? 0).map (·.replacements) == some [1, 2] &&
      ((m.event.effect m.page).notices.drop m.page.notices.length).filterMap Notice.refusal? ==
        [.invalidSwap "none", .formNotFound]) = true := by decide +kernel
  obtain ⟨m, hm, hfound⟩ := List.any_eq_true.mp hany
  simp only [Bool.and_eq_true, beq_iff_eq] at hfound
  obtain ⟨⟨hswaps, htwo⟩, hreports⟩ := hfound
  obtain ⟨s, k, response, transport, r, replacements, reports, q, hevent, hq, -, -, -, -, -,
    hreplacements, -, hmounted, hbare, hnotices, hrefused⟩ :=
      replacements_are_the_mountable_hosts hm hswaps
  have heffect : m.event.effect m.page = q := by
    rw [hevent]
    exact hq
  rw [heffect] at htwo hreports
  rw [hnotices, List.drop_left] at hreports
  rw [hreports] at hrefused
  obtain rfl : replacements = [1, 2] := Option.some.inj (hreplacements.symm.trans htwo)
  have hunfit {h : HostId} (hh : h ∈ r.inserted.filter fun h => !q.mountable h) : q.Bare h := by
    rw [List.mem_filter, Bool.not_eq_true'] at hh
    exact hbare h hh.1 hh.2
  -- two of the hosts have a component, and there are notices on the other two
  generalize r.inserted.filter q.mountable = fit at hmounted
  generalize (r.inserted.filter fun h => !q.mountable h) = unfit at hrefused hunfit
  obtain _ | ⟨hfirst, _ | ⟨hlast, _ | _⟩⟩ := hmounted
  obtain _ | ⟨hswap, _ | ⟨hform, _ | _⟩⟩ := hrefused
  exact ⟨m, hm, hswaps, q, _, _, _, _, heffect.symm, htwo, hfirst, hlast,
    hunfit (by simp), hswap, hunfit (by simp), hform⟩

/-- If adding listeners is set to fail, nothing is mounted, although the inserted host has a valid
configuration and a form. -/
theorem nothing_mounted_without_listeners :
    let p := performAll {} [.newForm { action := "/save", method := "post" },
      .newHost [] (some 0) none false, .append 0 0, .createWith 0 {}, .attach 0,
      .reply (.ok ⟨.ok, "<ajax-form><form action='/next' method='post'></form></ajax-form>"⟩),
      .setFault .addSubmitListener true, .handleSubmit 0 none]
    let q := p.poll 0
    p.verdict 0 = some (.ok 0) ∧ q.hostsOf 0 = [1] ∧
      q.getAttribute 1 swapAttribute = none ∧ q.queryForm 1 = some 1 ∧
      (q.component? 0).map (·.replacements) = some [] ∧ q.components.length = 1 ∧
      (q.forms[1]?).map (·.listeners) = some [] := by
  decide +kernel

end Page

end FormSwap
