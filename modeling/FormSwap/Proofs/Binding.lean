import FormSwap.Proofs.InFlight

/-!
# Components and their forms

A component has a form exactly if it has a listener, and the form is one of the page. The action and
method of a form never change, so `requestOf` depends on the payload alone. A component keeps its
form until it is detached, or a response is swapped into its host.

Main results:

- `Move.formsInOrder`: every component's form is one of the page, with a listener
- `Course.requestOf`: the request of a form and a payload does not change
- `Move.boundTo`: only an inner swap takes the form from a component that is not detached
-/

namespace FormSwap.Page

/-! ## Forms of hosts and components -/

/-- `p.FormsInOrder`: every form of a host or a component is one of the page, and a component has a
form exactly if it has a listener. -/
structure FormsInOrder (p : Page) : Prop where
  hosts : p.FormsKnown
  known : ∀ (c : ComponentId) (k : Component) (f : FormId), p.component? c = some k →
    k.form = some f → f < p.forms.length
  paired : ∀ (c : ComponentId) (k : Component), p.component? c = some k →
    k.form.isSome = k.listener.isSome

@[simp] theorem length_formsWithout (p : Page) (l : Option ListenerRef) :
    (p.formsWithout l).length = p.forms.length := by
  cases l <;> simp [formsWithout, removeListener, modifyForm]

@[simp] theorem length_formsWith (p : Page) (f : FormId) (l : Listener) :
    (p.formsWith f l).length = p.forms.length := by
  simp [formsWith]

section Hosts

variable {β : Type} (p : Page) (h : HostId) {g : Host → β}

theorem map_hostsMarking (hg : ∀ host, g host.mark = g host) :
    (p.hostsMarking h).map g = p.hosts.map g := by
  unfold hostsMarking
  split
  · rfl
  · exact map_modify_of_eq p.hosts h hg

theorem map_hostsUnmarking (hg : ∀ host, g host.unmark = g host) :
    (p.hostsUnmarking h).map g = p.hosts.map g := by
  unfold hostsUnmarking
  split
  · rfl
  · exact map_modify_of_eq p.hosts h hg

end Hosts

section FormsInOrder

variable {p q : Page}

/-- `FormsKnown` depends on the contents of the hosts and the number of forms. -/
private theorem FormsKnown.of_contents (h : p.FormsKnown)
    (hhosts : q.hosts.map Host.content = p.hosts.map Host.content)
    (hforms : q.forms.length = p.forms.length) : q.FormsKnown := by
  intro host hhost f hf
  have hmem : host.content ∈ p.hosts.map Host.content := hhosts ▸ List.mem_map_of_mem hhost
  obtain ⟨old, hold, hsame⟩ := List.mem_map.mp hmem
  rw [hforms]
  exact h old hold f (hsame ▸ hf)

/-- `FormsInOrder` is preserved if one component changes, and otherwise only attributes and
listeners. -/
private theorem FormsInOrder.of_modify (h : p.FormsInOrder) {c : ComponentId}
    {change : Component → Component}
    (hc : q.components = p.components.modify c (Option.map change))
    (hhosts : q.hosts.map Host.content = p.hosts.map Host.content)
    (hforms : q.forms.length = p.forms.length)
    (hform : ∀ k f, p.component? c = some k → (change k).form = some f →
      k.form = some f ∨ f < p.forms.length)
    (hpaired : ∀ k, k.form.isSome = k.listener.isSome →
      (change k).form.isSome = (change k).listener.isSome) : q.FormsInOrder where
  hosts := h.hosts.of_contents hhosts hforms
  known d k' f hk' hf := by
    rw [hforms]
    rw [component?_of_modify hc] at hk'
    split at hk'
    · rename_i hcd
      subst hcd
      obtain ⟨k, hk, rfl⟩ := Option.map_eq_some_iff.mp hk'
      rcases hform k f hk hf with hold | hnew
      · exact h.known c k f hk hold
      · exact hnew
    · exact h.known d k' f hk' hf
  paired d k' hk' := by
    rw [component?_of_modify hc] at hk'
    split at hk'
    · obtain ⟨k, hk, rfl⟩ := Option.map_eq_some_iff.mp hk'
      exact hpaired k (h.paired d k hk)
    · exact h.paired d k' hk'

/-- `queryForm` returns a form of the page. -/
theorem queryForm_lt (h : p.FormsKnown) {host : HostId} {f : FormId}
    (hf : p.queryForm host = some f) : f < p.forms.length := by
  obtain ⟨old, hold, hform⟩ := Option.bind_eq_some_iff.mp hf
  exact h old (List.mem_of_getElem? hold) f hform

/-- `FormsInOrder` is preserved by every move. -/
theorem Move.formsInOrder {kind : Kind} (move : Move kind p q) (h : p.FormsInOrder) :
    q.FormsInOrder := by
  cases move with
  | tree e =>
    have hkept := e.kept
    refine ⟨hkept.known h.hosts, fun c k f hk hf => ?_, fun c k hk => ?_⟩
    · rw [hkept.component?] at hk
      exact Nat.lt_of_lt_of_le (h.known c k f hk hf) hkept.forms.length_le
    · rw [hkept.component?] at hk
      exact h.paired c k hk
  | mark _ i change =>
    exact ⟨h.hosts.of_contents (map_modify_of_eq _ _ fun _ => rfl) rfl, h.known, h.paired⟩
  | ask | await | sleep | finishGone | dropAborted | clear | wake | advance | pollSleep | dropSleep
  | fault | mend | note | other => exact ⟨h.hosts, h.known, h.paired⟩
  | create =>
    refine ⟨h.hosts, fun c k f hk hf => ?_, fun c k hk => ?_⟩
    · rw [component?_of_append (p := p) rfl] at hk
      split at hk
      · cases hk
        cases hf
      · exact h.known c k f hk hf
    · rw [component?_of_append (p := p) rfl] at hk
      split at hk
      · cases hk
        rfl
      · exact h.paired c k hk
  | drop =>
    refine ⟨h.hosts.of_contents rfl (length_formsWithout _ _), fun c k f hk hf => ?_,
      fun c k hk => ?_⟩
    · rw [component?_of_set_none (p := p) rfl] at hk
      rw [length_formsWithout]
      split at hk
      · cases hk
      · exact h.known c k f hk hf
    · rw [component?_of_set_none (p := p) rfl] at hk
      split at hk
      · cases hk
      · exact h.paired c k hk
  | bind _ _ _ hf | rebind _ _ _ _ hf =>
    -- the form was found in a host, so it is one of the page
    refine h.of_modify rfl rfl (length_formsWith _ _ _) (fun k g _ hg => ?_) fun _ _ => rfl
    cases hg
    exact .inr (queryForm_lt h.hosts hf)
  | unbind | replace =>
    exact h.of_modify rfl rfl (length_formsWithout _ _) (fun _ _ _ hf => by cases hf)
      fun _ _ => rfl
  | disconnect =>
    refine h.of_modify rfl ?_ (length_formsWithout _ _) (fun _ _ _ hf => by cases hf)
      fun _ _ => rfl
    dsimp only
    split
    · exact map_hostsUnmarking p _ fun _ => rfl
    · rfl
  | adopt => exact h.of_modify rfl rfl rfl (fun _ _ _ hf => .inl hf) fun _ hp => hp
  | start =>
    exact h.of_modify rfl (map_hostsMarking p _ fun _ => rfl) rfl (fun _ _ _ hf => .inl hf)
      fun _ hp => hp
  | refuse =>
    refine h.of_modify rfl ?_ rfl (fun _ _ _ hf => .inl hf) fun _ hp => hp
    exact (map_hostsUnmarking _ _ fun _ => rfl).trans (map_hostsMarking p _ fun _ => rfl)
  | finish =>
    exact h.of_modify rfl (map_hostsUnmarking p _ fun _ => rfl) rfl (fun _ _ _ hf => .inl hf)
      fun _ hp => hp

/-- `FormsInOrder` holds on every visited page. -/
theorem Visited.formsInOrder (h : p.Visited) : p.FormsInOrder := by
  refine h.keeps ⟨fun host hhost => ?_, fun c k f hk => ?_, fun c k hk => ?_⟩
    fun _ _ _ move => move.formsInOrder
  · cases hhost
  · cases hk
  · cases hk

end FormsInOrder

/-! ## Requests -/

section Requests

variable {p q : Page}

private theorem formsWithout_kept (p : Page) (l : Option ListenerRef) :
    KeptUpTo Form.SameTarget p.forms (p.formsWithout l) := by
  cases l with
  | none => exact .refl Form.SameTarget.refl _
  | some l => exact .modify Form.SameTarget.refl _ _ fun _ => ⟨rfl, rfl⟩

private theorem formsWith_kept (p : Page) (f : FormId) (l : Listener) :
    KeptUpTo Form.SameTarget p.forms (p.formsWith f l) :=
  .modify Form.SameTarget.refl _ _ fun _ => ⟨rfl, rfl⟩

/-- Every move preserves the action and method of the forms. -/
theorem Move.forms_kept {kind : Kind} (move : Move kind p q) :
    KeptUpTo Form.SameTarget p.forms q.forms := by
  cases move with
  | tree e => exact e.kept.forms
  | bind | rebind => exact formsWith_kept p _ _
  | unbind | replace | disconnect | drop => exact formsWithout_kept p _
  | mark | create | adopt | start | refuse | ask | await | sleep | finish | finishGone | dropAborted
  | clear | wake | advance | pollSleep | dropSleep | fault | mend | note | other =>
    exact .refl Form.SameTarget.refl _

/-- `requestOf` depends on the action and method of the form, and on the payload. -/
theorem requestOf_of_kept (hkept : KeptUpTo Form.SameTarget p.forms q.forms) {f : FormId}
    (hf : f < p.forms.length) (payload : Payload) :
    q.requestOf f payload = p.requestOf f payload := by
  obtain ⟨form, hform, hmethod, haction⟩ :=
    hkept f p.forms[f] (List.getElem?_eq_getElem hf)
  unfold Page.requestOf
  rw [hform, List.getElem?_eq_getElem hf]
  dsimp only
  rw [hmethod, haction]

/-- `requestOf` is preserved along a course. -/
theorem Course.requestOf {S : Kind → Prop} (h : Course S p q) {f : FormId}
    (hf : f < p.forms.length) (payload : Payload) :
    q.requestOf f payload = p.requestOf f payload := by
  have hkept : KeptUpTo Form.SameTarget p.forms q.forms :=
    h.keeps (I := fun r => KeptUpTo Form.SameTarget p.forms r.forms)
      (fun _ _ _ _ move ih => ih.trans
        (fun _ _ _ hab hbc => ⟨hbc.1.trans hab.1, hbc.2.trans hab.2⟩) move.forms_kept)
      (.refl Form.SameTarget.refl _)
  exact requestOf_of_kept hkept hf payload

/-- `p.AcceptedKnown`: the form of a pipeline that was never polled is one of the page. -/
def AcceptedKnown (p : Page) : Prop :=
  ∀ (s : PipelineId) (pipe : Pipeline) (f : FormId) (payload : Except SubmitError Payload),
    p.pipelines[s]? = some pipe → pipe.stage = .accepted f payload → f < p.forms.length

theorem Move.acceptedKnown {kind : Kind} (move : Move kind p q) (hforms : p.FormsInOrder)
    (h : p.AcceptedKnown) : q.AcceptedKnown := by
  intro s pipe' f payload hpipe' hstage
  refine Nat.lt_of_lt_of_le ?_ move.forms_kept.length_le
  rcases move.stage_cases hpipe' with ⟨pipe, hpipe, hsame⟩ | ⟨c, k, g, _, hk, hg, hnew⟩ |
    ⟨_, _, hawaits⟩ | hrank
  · exact h s pipe f payload hpipe (hsame.symm.trans hstage)
  · cases hstage.symm.trans hnew
    exact hforms.known c k f hk hg
  · cases hstage.symm.trans hawaits
  · simp [hstage, Stage.rank] at hrank

theorem Visited.acceptedKnown (h : p.Visited) : p.AcceptedKnown := by
  have hempty : ({} : Page).FormsInOrder := Visited.formsInOrder (.refl _)
  refine (h.keeps (I := fun q => q.FormsInOrder ∧ q.AcceptedKnown) ⟨hempty, ?_⟩ ?_).2
  · intro s pipe f payload hpipe
    cases hpipe
  · intro _ _ _ move hp
    exact ⟨move.formsInOrder hp.1, move.acceptedKnown hp.1 hp.2⟩

end Requests

/-! ## Bound components -/

/-- `p.BoundTo c f`: unless it is dropped or detached, `c` is attached to `f`. -/
structure BoundTo (p : Page) (c : ComponentId) (f : FormId) : Prop where
  placed : c < p.components.length
  bound : ∀ k, p.component? c = some k → k.detached = false →
    k.form = some f ∧ k.listener.isSome = true

section BoundTo

variable {p q : Page} {c : ComponentId} {f : FormId}

/-- `BoundTo` is preserved if one component changes and keeps its form, or is detached. -/
theorem BoundTo.of_modify (h : p.BoundTo c f) {d : ComponentId}
    {change : Component → Component}
    (hc : q.components = p.components.modify d (Option.map change))
    (hchange : d = c → ∀ k, p.component? d = some k → (change k).detached = false →
      (change k).form = some f ∧ (change k).listener.isSome = true) : q.BoundTo c f where
  placed := by
    rw [hc, List.length_modify]
    exact h.placed
  bound k' hk' hd := by
    rw [component?_of_modify hc] at hk'
    split at hk'
    · rename_i hdc
      subst hdc
      obtain ⟨k, hk, rfl⟩ := Option.map_eq_some_iff.mp hk'
      exact hchange rfl k hk hd
    · exact h.bound k' hk' hd

/-- `BoundTo` is preserved by every move except an inner swap of the component. -/
theorem Move.boundTo {kind : Kind} (move : Move kind p q) (hkind : kind ≠ .unbind c)
    (h : p.BoundTo c f) : q.BoundTo c f := by
  cases move with
  | tree e =>
    obtain ⟨_, _, _, rfl⟩ := e.kept.only
    exact ⟨h.placed, h.bound⟩
  | mark | ask | await | sleep | finishGone | dropAborted | clear | wake | advance | pollSleep
  | dropSleep | fault | mend | note | other => exact ⟨h.placed, h.bound⟩
  | bind hk hd hl | rebind hk _ _ hl =>
    -- a component that has a listener is not bound again
    refine h.of_modify rfl fun hdc k hk' hd' => ?_
    subst hdc
    rw [hk] at hk'
    cases hk'
    have hsome := (h.bound _ hk hd').2
    rw [hl] at hsome
    cases hsome
  | unbind =>
    exact h.of_modify rfl fun hdc => absurd (by rw [hdc]) hkind
  | replace | disconnect => exact h.of_modify rfl fun _ _ _ hd => by cases hd
  | adopt | start | refuse | finish =>
    refine h.of_modify rfl fun hdc k hk hd => ?_
    subst hdc
    exact h.bound k hk hd
  | create =>
    refine ⟨by rw [List.length_append]; exact Nat.lt_succ_of_lt h.placed, fun k hk => ?_⟩
    rw [component?_of_append (p := p) rfl, if_neg (Nat.ne_of_lt h.placed)] at hk
    exact h.bound k hk
  | drop =>
    refine ⟨by rw [List.length_set]; exact h.placed, fun k hk => ?_⟩
    rw [component?_of_set_none (p := p) rfl] at hk
    split at hk
    · cases hk
    · exact h.bound k hk

end BoundTo

end FormSwap.Page
