import FormSwap.Proofs.Binding
import Mathlib.Data.List.Nodup

/-!
# Listeners

The listeners of a form have increasing ids, which are never reused. A component has one listener,
on the form that it is attached to, and its handle has the id. So removing a listener by its handle
removes that listener only.

Main results:

- `Form.Numbered.remove`: `release` removes one listener and preserves the others
- `Move.wired`: every move preserves `Wired`
- `Wired.listenersInStep`: a form has one listener of each component that is attached to it
-/

namespace FormSwap

namespace Form

/-- `form.install role` is the form with one more listener. -/
def install (role : ListenerRole) (form : Form) : Form :=
  { form with
    listeners := form.listeners ++ [⟨form.nextListener, role⟩]
    nextListener := form.nextListener + 1 }

/-- `form.release id` is the form without the listener `id`. -/
def release (id : Nat) (form : Form) : Form :=
  { form with listeners := form.listeners.filter fun l => l.id != id }

/-- `form.Numbered`: the ids increase and are below `nextListener`. -/
structure Numbered (form : Form) : Prop where
  ascending : form.listeners.Pairwise fun l l' => l.id < l'.id
  below : ∀ l ∈ form.listeners, l.id < form.nextListener

namespace Numbered

variable {form : Form} {l l' : Listener} {id : Nat}

/-- A form without listeners is `Numbered`. -/
theorem of_nil (h : form.listeners = []) : form.Numbered :=
  ⟨by simp [h], by simp [h]⟩

theorem install (h : form.Numbered) (role : ListenerRole) : (form.install role).Numbered where
  ascending := by
    -- the new id is above all others
    refine List.pairwise_append.mpr
      ⟨h.ascending, List.pairwise_singleton _ _, fun l hl l' hl' => ?_⟩
    cases List.mem_singleton.mp hl'
    exact h.below l hl
  below l hl := by
    rcases List.mem_append.mp hl with hold | hnew
    · exact Nat.lt_succ_of_lt (h.below l hold)
    · cases List.mem_singleton.mp hnew
      exact Nat.lt_succ_self _

theorem release (h : form.Numbered) (id : Nat) : (form.release id).Numbered where
  ascending := h.ascending.sublist List.filter_sublist
  below l hl := h.below l (List.mem_filter.mp hl).1

/-- The ids of a `Numbered` form are distinct. -/
theorem nodup (h : form.Numbered) : (form.listeners.map (·.id)).Nodup :=
  List.pairwise_map.mpr (h.ascending.imp fun hlt => Nat.ne_of_lt hlt)

theorem eq_of_id (h : form.Numbered) (hl : l ∈ form.listeners) (hl' : l' ∈ form.listeners)
    (hid : l.id = l'.id) : l = l' :=
  List.inj_on_of_nodup_map h.nodup hl hl' hid

/-- `release` removes one listener and preserves the others in their order. -/
theorem remove (h : form.Numbered) (hl : l ∈ form.listeners) :
    ∃ before after, form.listeners = before ++ l :: after ∧
      (form.release l.id).listeners = before ++ after := by
  obtain ⟨before, after, hsplit⟩ := List.append_of_mem hl
  refine ⟨before, after, hsplit, ?_⟩
  have hascending := h.ascending
  rw [hsplit] at hascending
  obtain ⟨-, hrest, hcross⟩ := List.pairwise_append.mp hascending
  obtain ⟨hafter, -⟩ := List.pairwise_cons.mp hrest
  -- the ids before it are smaller, those after it are larger
  have hkeep_before : before.filter (fun x => x.id != l.id) = before :=
    List.filter_eq_self.mpr fun x hx => by
      have hlt := hcross x hx l (by simp)
      simp only [bne_iff_ne]
      omega
  have hkeep_after : after.filter (fun x => x.id != l.id) = after :=
    List.filter_eq_self.mpr fun x hx => by
      have hlt := hafter x hx
      simp only [bne_iff_ne]
      omega
  simp [Form.release, hsplit, hkeep_before, hkeep_after]

end Numbered

end Form

namespace Page

/-! ## Listeners of components -/

/-- `p.Listens c l`: the form of the handle `l` has its listener, and it is that of `c`. -/
def Listens (p : Page) (c : ComponentId) (l : ListenerRef) : Prop :=
  ∃ form, p.forms[l.form]? = some form ∧ ⟨l.id, .component c⟩ ∈ form.listeners

/-- `p.listenerOf c` is the listener handle of `c`. -/
def listenerOf (p : Page) (c : ComponentId) : Option ListenerRef :=
  (p.component? c).bind (·.listener)

/-- `p.Numbered`: every form is `Numbered`. -/
def Numbered (p : Page) : Prop :=
  ∀ (f : FormId) (form : Form), p.forms[f]? = some form → form.Numbered

/-- `p.Wired`: the listener handles of the components agree with the listeners of the forms. -/
structure Wired (p : Page) : Prop where
  numbered : p.Numbered
  /-- A component is attached to the form of its handle. -/
  bound : ∀ (c : ComponentId) (k : Component), p.component? c = some k →
    k.form = k.listener.map (·.form)
  /-- A listener of a component is the one of its handle. -/
  handle : ∀ (c : ComponentId) (l : ListenerRef), p.Listens c l ↔ p.listenerOf c = some l

section Forms

variable {p q : Page} {c d : ComponentId} {f : FormId} {l : ListenerRef}

/-- `Listens` after a change of one form. -/
theorem listens_of_modify {change : Form → Form} (hq : q.forms = p.forms.modify f change) :
    q.Listens c l ↔ if f = l.form then
      ∃ form, p.forms[f]? = some form ∧ ⟨l.id, .component c⟩ ∈ (change form).listeners
      else p.Listens c l := by
  unfold Listens
  rw [hq]
  split
  · rename_i hf
    subst hf
    rw [List.getElem?_modify_eq]
    constructor
    · rintro ⟨form', hform', hmem⟩
      obtain ⟨form, hform, rfl⟩ := Option.map_eq_some_iff.mp hform'
      exact ⟨form, hform, hmem⟩
    · rintro ⟨form, hform, hmem⟩
      exact ⟨change form, by rw [hform]; rfl, hmem⟩
  · rename_i hf
    rw [List.getElem?_modify_ne _ _ hf]

private theorem Numbered.of_modify (h : p.Numbered) {change : Form → Form}
    (hq : q.forms = p.forms.modify f change)
    (hchange : ∀ form : Form, form.Numbered → (change form).Numbered) : q.Numbered := by
  intro g form' hform'
  rw [hq, List.getElem?_modify] at hform'
  obtain ⟨form, hform, rfl⟩ := Option.map_eq_some_iff.mp hform'
  split
  · exact hchange form (h g form hform)
  · exact h g form hform

/-- `formsWith` is `install` with the next id. -/
theorem formsWith_eq (p : Page) (f : FormId) (role : ListenerRole) :
    p.formsWith f ⟨p.nextListener f, role⟩ = p.forms.modify f (Form.install role) := by
  apply List.ext_getElem?
  intro g
  simp only [formsWith, List.getElem?_modify]
  by_cases hfg : f = g
  · subst hfg
    cases hform : p.forms[f]? <;> simp [nextListener, hform, Form.install]
  · simp [hfg]

/-- `Listens` after `install`. -/
theorem listens_of_install {role : ListenerRole} (hf : f < p.forms.length)
    (hq : q.forms = p.forms.modify f (Form.install role)) :
    q.Listens c l ↔ p.Listens c l ∨ role = .component c ∧ l = ⟨f, p.nextListener f⟩ := by
  have hform : p.forms[f]? = some p.forms[f] := List.getElem?_eq_getElem hf
  have hnext : p.nextListener f = p.forms[f].nextListener := by simp [nextListener, hform]
  obtain ⟨g, id⟩ := l
  rw [listens_of_modify hq]
  dsimp only
  by_cases hfg : f = g
  · subst hfg
    simp [Listens, hform, hnext, Form.install, and_comm, eq_comm]
  · simp [hfg, Ne.symm hfg]

/-- `Listens` after `release`. -/
theorem listens_of_release {id : Nat} (hq : q.forms = p.forms.modify f (Form.release id)) :
    q.Listens c l ↔ p.Listens c l ∧ l ≠ ⟨f, id⟩ := by
  obtain ⟨g, id'⟩ := l
  rw [listens_of_modify hq]
  dsimp only
  by_cases hfg : f = g
  · subst hfg
    simp only [if_true, Listens, Form.release, List.mem_filter, bne_iff_ne, ← and_assoc,
      exists_and_right, ne_eq, ListenerRef.mk.injEq, true_and]
  · simp [hfg, Ne.symm hfg]

end Forms

/-! ## Edits of the tree -/

/-- `Rewired p q`: the listeners of components are the same on `p` and `q`, and the ids stay
distinct. -/
structure Rewired (p q : Page) : Prop where
  numbered : p.Numbered → q.Numbered
  listens : p.Numbered → ∀ c l, q.Listens c l ↔ p.Listens c l

namespace Rewired

variable {p q r : Page}

theorem trans (h : Rewired p q) (h' : Rewired q r) : Rewired p r where
  numbered hp := h'.numbered (h.numbered hp)
  listens hp c l := (h'.listens (h.numbered hp) c l).trans (h.listens hp c l)

/-- `Rewired` if forms without listeners are added. -/
theorem of_append {new : List Form} (hq : q.forms = p.forms ++ new)
    (hnew : ∀ form ∈ new, form.listeners = []) : Rewired p q := by
  have hcases {f : FormId} {form : Form} (hform : q.forms[f]? = some form) :
      p.forms[f]? = some form ∨ form.listeners = [] := by
    rw [hq, List.getElem?_append] at hform
    split at hform
    · exact .inl hform
    · exact .inr (hnew form (List.mem_of_getElem? hform))
  refine ⟨fun hp f form hform => ?_, fun _ c l => ⟨?_, ?_⟩⟩
  · rcases hcases hform with hold | hnil
    · exact hp f form hold
    · exact .of_nil hnil
  · rintro ⟨form, hform, hmem⟩
    rcases hcases hform with hold | hnil
    · exact ⟨form, hold, hmem⟩
    · rw [hnil] at hmem
      cases hmem
  · rintro ⟨form, hform, hmem⟩
    have hlt := (List.getElem?_eq_some_iff.mp hform).1
    exact ⟨form, by rw [hq, List.getElem?_append_left hlt, hform], hmem⟩

theorem of_forms (hq : q.forms = p.forms) : Rewired p q :=
  of_append (hq.trans (List.append_nil _).symm) (by simp)

theorem refl (p : Page) : Rewired p p :=
  of_forms rfl

/-- `Rewired` if fields change. -/
theorem of_fields {f : FormId} {change : Form → Form} (hq : q.forms = p.forms.modify f change)
    (hlisteners : ∀ form, (change form).listeners = form.listeners)
    (hnext : ∀ form, (change form).nextListener = form.nextListener) : Rewired p q where
  numbered hp := by
    refine hp.of_modify hq fun form hform => ⟨?_, ?_⟩
    · rw [hlisteners]
      exact hform.ascending
    · rw [hlisteners, hnext]
      exact hform.below
  listens _ c l := by
    rw [listens_of_modify hq]
    simp only [hlisteners]
    split
    · rename_i hf
      rw [hf]
      rfl
    · rfl

/-- `Rewired` if an observer is added. -/
theorem of_observer {f : FormId} {label : String} {reactions : List Reaction}
    (hq : q.forms = p.forms.modify f (Form.install (.observer label reactions))) :
    Rewired p q where
  numbered hp := hp.of_modify hq fun _ h => h.install _
  listens _ c l := by
    rw [listens_of_modify hq]
    split
    · rename_i hf
      subst hf
      simp [Form.install, Listens]
    · rfl

/-- `Rewired` if an observer is removed. -/
theorem of_unobserved {l : ListenerRef} (hl : p.hasObserver l = true) :
    Rewired p (p.removeListener l) := by
  have hq : (p.removeListener l).forms = p.forms.modify l.form (Form.release l.id) := rfl
  refine ⟨fun hp => hp.of_modify hq fun _ h => h.release _, fun hp c l' => ?_⟩
  rw [listens_of_release hq]
  refine and_iff_left_of_imp fun hlistens heq => ?_
  -- the id would be that of a component and of an observer
  subst heq
  obtain ⟨form, hform, hmem⟩ := hlistens
  simp only [hasObserver, listenersOf, hform, Option.map_some, Option.getD_some,
    List.any_eq_true, Bool.and_eq_true, beq_iff_eq] at hl
  obtain ⟨x, hx, hid, hrole⟩ := hl
  have hsame := (hp _ form hform).eq_of_id hx hmem hid
  rw [hsame] at hrole
  cases hrole

end Rewired

/-- `readContent` adds forms without listeners. -/
theorem readContent_forms (p : Page) (markup : String) :
    ∃ new, (p.readContent markup).1.forms = p.forms ++ new ∧
      ∀ form ∈ new, form.listeners = [] := by
  unfold readContent
  split
  · exact ⟨[], by simp⟩
  · rename_i data _
    exact ⟨[{ data }], rfl, by simp⟩

private theorem addFragments_rewired (d : DocumentId) (p : Page) (l : List Markup.Fragment) :
    Rewired p (addFragments d p l).1 := by
  induction l generalizing p with
  | nil => exact .refl p
  | cons fragment rest ih =>
    cases fragment with
    | text s => exact ih p
    | host tag inner closed =>
      obtain ⟨new, hnew, hnil⟩ := readContent_forms p (String.ofList inner)
      have hhost : Rewired (p.readContent (String.ofList inner)).1
          ((p.readContent (String.ofList inner)).1.addHost
            { attributes := Markup.readAttributes tag
              content := (p.readContent (String.ofList inner)).2
              parent := some d }).1 := .of_forms rfl
      exact ((Rewired.of_append hnew hnil).trans hhost).trans (ih _)

/-- `Rewired` holds for every `TreeEdit`. -/
theorem TreeEdit.rewired {p q : Page} {watch : Bool} (e : TreeEdit p q watch) : Rewired p q := by
  cases e with
  | addDocument | dropDocument | append | remove | dispatchDocument => exact .of_forms rfl
  | appendMarkup d markup => exact (addFragments_rewired d p _).trans (.of_forms rfl)
  | newHost attributes form markup rejecting =>
    cases markup with
    | some markup =>
      obtain ⟨new, hnew, hnil⟩ := readContent_forms p markup
      exact (Rewired.of_append hnew hnil).trans (.of_forms rfl)
    | none => cases form <;> exact .of_forms rfl
  | setAttribute _ hq =>
    unfold Page.setAttribute at hq
    split at hq <;> cases hq
    exact .of_forms rfl
  | removeAttribute _ hq =>
    unfold Page.removeAttribute at hq
    split at hq <;> cases hq
    exact .of_forms rfl
  | @setInnerHtml _ _ markup hq =>
    unfold Page.setInnerHtml at hq
    split at hq <;> cases hq
    obtain ⟨new, hnew, hnil⟩ := readContent_forms p markup
    exact (Rewired.of_append hnew hnil).trans (.of_forms rfl)
  | setOuterHtml hr =>
    unfold Page.setOuterHtml at hr
    split at hr
    · cases hr
    split at hr
    · cases hr
    rename_i d _
    split at hr
    · cases hr
    split at hr <;> cases hr
    exact (addFragments_rewired d p _).trans (.of_forms rfl)
  | dispatchHost hq =>
    unfold Page.dispatchHost at hq
    split at hq
    · cases hq
      exact .refl p
    split at hq
    · cases hq
    split at hq <;> cases hq <;> exact .of_forms rfl
  | addForm data =>
    have hq : (p.addForm data).1.forms = p.forms ++ [{ data := data }] := rfl
    exact .of_append hq (by simp)
  | addField | setField => exact .of_fields rfl (fun _ => rfl) fun _ => rfl
  | @observe _ f _ label reactions hq =>
    unfold addListener at hq
    split at hq <;> cases hq
    exact .of_observer (formsWith_eq p f (.observer label reactions))
  | unobserve l hl => exact .of_unobserved hl

/-! ## Components and their listeners -/

namespace Wired

variable {p q : Page} {c : ComponentId} {k : Component} {f : FormId}

/-- A listener belongs to one component. -/
theorem owner_unique (h : p.Wired) {d : ComponentId} {l : ListenerRef} (hc : p.Listens c l)
    (hd : p.Listens d l) : c = d := by
  obtain ⟨form, hform, hmem⟩ := hc
  obtain ⟨form', hform', hmem'⟩ := hd
  rw [hform] at hform'
  cases hform'
  cases (h.numbered _ form hform).eq_of_id hmem hmem' rfl
  rfl

/-- `Wired` is preserved if no component gets or loses a form. -/
theorem of_kept (h : p.Wired) (hr : Rewired p q)
    (hbound : ∀ d k, q.component? d = some k → k.form = k.listener.map (·.form))
    (hlistener : ∀ d, q.listenerOf d = p.listenerOf d) : q.Wired where
  numbered := hr.numbered h.numbered
  bound := hbound
  handle d l := by
    rw [hr.listens h.numbered, hlistener]
    exact h.handle d l

/-- `Wired` is preserved if a component keeps its form and its handle. -/
theorem of_modify (h : p.Wired) {change : Component → Component}
    (hc : q.components = p.components.modify c (Option.map change)) (hforms : q.forms = p.forms)
    (hform : ∀ k, (change k).form = k.form) (hlistener : ∀ k, (change k).listener = k.listener) :
    q.Wired := by
  refine h.of_kept (.of_forms hforms) (fun d k' hk' => ?_) fun d => ?_
  · rw [component?_of_modify hc] at hk'
    split at hk'
    · obtain ⟨k, hk, rfl⟩ := Option.map_eq_some_iff.mp hk'
      rw [hform, hlistener]
      exact h.bound d k hk
    · exact h.bound d k' hk'
  · unfold listenerOf
    rw [component?_of_modify hc]
    split
    · cases p.component? d <;> simp [hlistener]
    · rfl

/-- `Wired` is preserved if a component without a listener gets one. -/
theorem of_bound (h : p.Wired) (hk : p.component? c = some k) (hl : k.listener = none)
    (hf : f < p.forms.length) (hforms : q.forms = p.formsWith f ⟨p.nextListener f, .component c⟩)
    (hc : q.components = p.components.modify c
      (Option.map (Component.bound f ⟨f, p.nextListener f⟩))) : q.Wired := by
  rw [formsWith_eq] at hforms
  have hcomponent := component?_of_modify hc
  refine ⟨h.numbered.of_modify hforms fun _ hform => hform.install _, fun d k' hk' => ?_,
    fun d l => ?_⟩
  · rw [hcomponent] at hk'
    split at hk'
    · obtain ⟨k₀, -, rfl⟩ := Option.map_eq_some_iff.mp hk'
      rfl
    · exact h.bound d k' hk'
  · rw [listens_of_install hf hforms, h.handle d l]
    unfold listenerOf
    rw [hcomponent]
    by_cases hcd : c = d
    · -- its only listener is the new one
      subst hcd
      simp [hk, hl, Component.bound, eq_comm]
    · simp [hcd]

/-- `Wired` is preserved if the listener of a component is removed, and the component unbound or
dropped. -/
theorem of_released (h : p.Wired) (hk : p.component? c = some k)
    (hforms : q.forms = p.formsWithout k.listener)
    (hown : ∀ k', q.component? c = some k' → k'.form = none ∧ k'.listener = none)
    (hothers : ∀ d, d ≠ c → q.component? d = p.component? d) : q.Wired := by
  have hgone : q.listenerOf c = none := by
    unfold listenerOf
    cases hk' : q.component? c with
    | none => rfl
    | some k' => exact (hown k' hk').2
  have hsame (d : ComponentId) (hd : d ≠ c) : q.listenerOf d = p.listenerOf d := by
    unfold listenerOf
    rw [hothers d hd]
  have hbound (d : ComponentId) (k' : Component) (hk' : q.component? d = some k') :
      k'.form = k'.listener.map (·.form) := by
    by_cases hd : d = c
    · subst hd
      simp [hown k' hk']
    · rw [hothers d hd] at hk'
      exact h.bound d k' hk'
  have howns : p.listenerOf c = k.listener := by simp [listenerOf, hk]
  cases hl : k.listener with
  | none =>
    rw [hl] at hforms howns
    refine h.of_kept (.of_forms hforms) hbound fun d => ?_
    by_cases hd : d = c
    · rw [hd, hgone, howns]
    · exact hsame d hd
  | some l =>
    rw [hl] at hforms howns
    have hrelease : q.forms = p.forms.modify l.form (Form.release l.id) := hforms
    refine ⟨h.numbered.of_modify hrelease fun _ hform => hform.release _, hbound, fun d l' => ?_⟩
    rw [listens_of_release hrelease]
    by_cases hd : d = c
    · -- the component had no other listener
      subst hd
      rw [hgone, h.handle, howns]
      refine iff_of_false ?_ nofun
      rintro ⟨heq, hne⟩
      cases heq
      exact hne rfl
    · rw [hsame d hd, ← h.handle d l']
      refine and_iff_left_of_imp fun hlistens heq => hd ?_
      subst heq
      exact h.owner_unique hlistens ((h.handle c _).mpr howns)

end Wired

/-- `Wired` is preserved by every move. -/
theorem Move.wired {kind : Kind} {p q : Page} (move : Move kind p q) (hp : p.FormsInOrder)
    (h : p.Wired) : q.Wired := by
  cases move with
  | tree e =>
    refine h.of_kept e.rewired (fun d k hk => ?_) fun d => ?_
    · rw [e.kept.component?] at hk
      exact h.bound d k hk
    · unfold listenerOf
      rw [e.kept.component?]
  | mark | ask | await | sleep | finishGone | dropAborted | clear | wake | advance | pollSleep
  | dropSleep | fault | mend | note | other => exact h.of_kept (.of_forms rfl) h.bound fun _ => rfl
  | adopt | start | refuse | finish =>
    exact h.of_modify rfl rfl (fun _ => rfl) fun _ => rfl
  | bind hk _ hl hf | rebind hk _ _ hl hf =>
    -- the form was found in a host, so it is one of the page
    exact h.of_bound hk hl (queryForm_lt hp.hosts hf) rfl rfl
  | unbind hk | replace hk | disconnect hk =>
    refine h.of_released hk rfl (fun k' hk' => ?_) fun d hd => ?_
    · rw [component?_of_modify (p := p) rfl, if_pos rfl, hk] at hk'
      cases hk'
      exact ⟨rfl, rfl⟩
    · rw [component?_of_modify (p := p) rfl, if_neg (Ne.symm hd)]
  | drop hk =>
    refine h.of_released hk rfl (fun k' hk' => ?_) fun d hd => ?_
    · rw [component?_of_set_none (p := p) rfl, if_pos rfl] at hk'
      cases hk'
    · rw [component?_of_set_none (p := p) rfl, if_neg (Ne.symm hd)]
  | create =>
    refine h.of_kept (.of_forms rfl) (fun d k hk => ?_) fun d => ?_
    · rw [component?_of_append (p := p) rfl] at hk
      split at hk
      · cases hk
        rfl
      · exact h.bound d k hk
    · -- a new component has no listener, like one that is not present
      unfold listenerOf
      rw [component?_of_append (p := p) rfl]
      split
      · rename_i hd
        have hnone : p.component? d = none := by simp [component?, hd]
        rw [hnone]
        rfl
      · rfl

/-- `Wired` holds on every visited page. -/
theorem Visited.wired {p : Page} (h : p.Visited) : p.Wired := by
  have hempty : ({} : Page).FormsInOrder ∧ ({} : Page).Wired := by
    refine ⟨Visited.formsInOrder (.refl _), fun f form hform => ?_, fun c k hk => ?_, fun c l => ?_⟩
    · cases hform
    · cases hk
    · refine iff_of_false ?_ nofun
      rintro ⟨form, hform, -⟩
      cases hform
  exact (h.keeps (I := fun q => q.FormsInOrder ∧ q.Wired) hempty
    fun _ _ _ move ih => ⟨move.formsInOrder ih.1, move.wired ih.1 ih.2⟩).2

section Attached

variable {p : Page} {c : ComponentId} {f : FormId} {form : Form}

end Attached

end Page

end FormSwap
