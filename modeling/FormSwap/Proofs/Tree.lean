import FormSwap.Page.Action

/-!
# Edits of the tree

`TreeEdit` lists the edits of documents, hosts and forms. They change nothing else on a page, remove
no host and no form, do not change the submitting attribute, and do not change the action or method
of a form. `TreeEdit.kept` states this of every edit, and `TreeEdit.childrenKnown` that every child
of a document is a host of the page.
-/

namespace FormSwap

open FormSwap.Markup

/-- `h.marked`: the host has the submitting attribute. -/
def Host.marked (h : Host) : Bool :=
  (lookup h.attributes submittingAttribute).isSome

/-- `h.SameMark h'`: both or neither of the hosts have the submitting attribute. -/
def Host.SameMark (h h' : Host) : Prop :=
  h'.marked = h.marked

theorem Host.SameMark.refl (h : Host) : h.SameMark h := rfl

/-- `f.SameTarget f'`: `f` and `f'` have the same action and method. -/
def Form.SameTarget (f f' : Form) : Prop :=
  f'.data.method = f.data.method ∧ f'.data.action = f.data.action

theorem Form.SameTarget.refl (f : Form) : f.SameTarget f := ⟨rfl, rfl⟩

/-! ## Lists up to a relation -/

/-- `KeptUpTo R l l'`: every element of `l` is related to the one at its index in `l'`. -/
def KeptUpTo {α : Type} (R : α → α → Prop) (l l' : List α) : Prop :=
  ∀ (i : Nat) (a : α), l[i]? = some a → ∃ b, l'[i]? = some b ∧ R a b

namespace KeptUpTo

variable {α : Type} {R : α → α → Prop} {l l' l'' : List α}

theorem refl (hR : ∀ a, R a a) (l : List α) : KeptUpTo R l l :=
  fun _ a h => ⟨a, h, hR a⟩

theorem trans (hR : ∀ a b c, R a b → R b c → R a c) (h : KeptUpTo R l l')
    (h' : KeptUpTo R l' l'') : KeptUpTo R l l'' := by
  intro i a ha
  obtain ⟨b, hb, hab⟩ := h i a ha
  obtain ⟨c, hc, hbc⟩ := h' i b hb
  exact ⟨c, hc, hR a b c hab hbc⟩

theorem append (hR : ∀ a, R a a) (l new : List α) : KeptUpTo R l (l ++ new) := by
  intro i a ha
  have hi : i < l.length := (List.getElem?_eq_some_iff.mp ha).1
  exact ⟨a, by rw [List.getElem?_append_left hi, ha], hR a⟩

theorem modify (hR : ∀ a, R a a) (l : List α) (j : Nat) {f : α → α} (hf : ∀ a, R a (f a)) :
    KeptUpTo R l (l.modify j f) := by
  intro i a ha
  refine ⟨if j = i then f a else a, by simp [List.getElem?_modify, ha], ?_⟩
  split
  · exact hf a
  · exact hR a

theorem length_le (h : KeptUpTo R l l') : l.length ≤ l'.length := by
  refine Nat.le_of_not_gt fun hlt => ?_
  obtain ⟨b, hb, -⟩ := h l'.length l[l'.length] (List.getElem?_eq_getElem hlt)
  simp at hb

end KeptUpTo

/-- `map` of a list after a change that the function does not see. -/
theorem map_modify_of_eq {α β : Type} (l : List α) (i : Nat) {change : α → α} {view : α → β}
    (h : ∀ a, view (change a) = view a) : (l.modify i change).map view = l.map view := by
  apply List.ext_getElem?
  intro j
  rw [List.getElem?_map, List.getElem?_map, List.getElem?_modify]
  cases l[j]? with
  | none => rfl
  | some a => split <;> simp [h]

namespace Page

/-- `p.marked h`: the host `h` has the submitting attribute. -/
def marked (p : Page) (h : HostId) : Bool :=
  ((p.hosts[h]?).map Host.marked).getD false

/-- `p.FormsKnown`: every form of a host is a form of the page. -/
def FormsKnown (p : Page) : Prop :=
  ∀ host ∈ p.hosts, ∀ f, host.content.form? = some f → f < p.forms.length

/-- `TreeKept p q`: `q` is `p` with an edited tree. -/
structure TreeKept (p q : Page) : Prop where
  only : ∃ documents hosts forms, q = { p with documents, hosts, forms }
  hosts : KeptUpTo Host.SameMark p.hosts q.hosts
  forms : KeptUpTo Form.SameTarget p.forms q.forms
  known : p.FormsKnown → q.FormsKnown

namespace TreeKept

variable {p q r : Page}

theorem refl (p : Page) : TreeKept p p where
  only := ⟨_, _, _, rfl⟩
  hosts := .refl Host.SameMark.refl _
  forms := .refl Form.SameTarget.refl _
  known h := h

theorem trans (h : TreeKept p q) (h' : TreeKept q r) : TreeKept p r where
  only := by
    obtain ⟨_, _, _, rfl⟩ := h.only
    obtain ⟨ds, hs, fs, rfl⟩ := h'.only
    exact ⟨ds, hs, fs, rfl⟩
  hosts := h.hosts.trans (fun _ _ _ hab hbc => hbc.trans hab) h'.hosts
  forms := h.forms.trans (fun _ _ _ hab hbc => ⟨hbc.1.trans hab.1, hbc.2.trans hab.2⟩) h'.forms
  known hp := h'.known (h.known hp)

/-- `TreeKept` holds if documents change. -/
theorem documents (p : Page) (documents : List (Option Document)) :
    TreeKept p { p with documents } where
  only := ⟨_, _, _, rfl⟩
  hosts := .refl Host.SameMark.refl _
  forms := .refl Form.SameTarget.refl _
  known h := h

/-- `TreeKept` holds if a host keeps its attribute and gets no unknown form. -/
theorem modifyHost (p : Page) (h : HostId) (change : Host → Host)
    (hm : ∀ host, Host.SameMark host (change host))
    (hf : ∀ host f, (change host).content.form? = some f →
      host.content.form? = some f ∨ f < p.forms.length) :
    TreeKept p (p.modifyHost h change) where
  only := ⟨_, _, _, rfl⟩
  hosts := .modify Host.SameMark.refl _ _ hm
  forms := .refl Form.SameTarget.refl _
  known hp := by
    intro host hhost f hform
    obtain ⟨i, hi⟩ := List.mem_iff_getElem?.mp hhost
    simp only [Page.modifyHost, List.getElem?_modify, Option.map_eq_map, Option.map_eq_some_iff]
      at hi
    obtain ⟨old, hold, rfl⟩ := hi
    have hmem : old ∈ p.hosts := List.mem_of_getElem? hold
    split at hform
    · rcases hf old f hform with hsame | hlt
      · exact hp old hmem f hsame
      · exact hlt
    · exact hp old hmem f hform

/-- `TreeKept` holds if a host without an unknown form is added. -/
theorem addHost (p : Page) (host : Host)
    (hf : ∀ f, host.content.form? = some f → f < p.forms.length) :
    TreeKept p (p.addHost host).1 where
  only := ⟨_, _, _, rfl⟩
  hosts := .append Host.SameMark.refl _ _
  forms := .refl Form.SameTarget.refl _
  known hp := by
    intro other hother f hform
    rcases List.mem_append.mp hother with hold | hnew
    · exact hp other hold f hform
    · rw [List.mem_singleton.mp hnew] at hform
      exact hf f hform

/-- `TreeKept` holds if a form is added. -/
theorem addForm (p : Page) (data : FormData) : TreeKept p (p.addForm data).1 where
  only := ⟨_, _, _, rfl⟩
  hosts := .refl Host.SameMark.refl _
  forms := .append Form.SameTarget.refl _ _
  known hp := by
    intro host hhost f hform
    simp only [Page.addForm, List.length_append, List.length_singleton]
    exact Nat.lt_succ_of_lt (hp host hhost f hform)

/-- `TreeKept` holds if a form keeps its action and method. -/
theorem modifyForm (p : Page) (f : FormId) {change : Form → Form}
    (hc : ∀ form, Form.SameTarget form (change form)) : TreeKept p (p.modifyForm f change) where
  only := ⟨_, _, _, rfl⟩
  hosts := .refl Host.SameMark.refl _
  forms := .modify Form.SameTarget.refl _ _ hc
  known hp := by
    intro host hhost g hform
    simpa [Page.modifyForm] using hp host hhost g hform

end TreeKept

/-! ## Edits that read markup -/

/-- `readContent` yields no unknown form. -/
theorem readContent_kept (p : Page) (markup : String) :
    TreeKept p (p.readContent markup).1 ∧
    ∀ f, (p.readContent markup).2.form? = some f → f < (p.readContent markup).1.forms.length := by
  unfold readContent
  split
  · exact ⟨.refl p, by simp [Content.form?]⟩
  · refine ⟨.addForm p _, fun f hf => ?_⟩
    cases hf
    simp [addForm]

/-- `addFragments` adds hosts after the existing ones. -/
theorem addFragments_kept (d : DocumentId) (p : Page) (l : List Fragment) :
    TreeKept p (addFragments d p l).1 ∧
    ∀ h, Child.host h ∈ (addFragments d p l).2 →
      p.hosts.length ≤ h ∧ h < (addFragments d p l).1.hosts.length := by
  induction l generalizing p with
  | nil => exact ⟨.refl p, by simp [addFragments]⟩
  | cons fragment rest ih =>
    cases fragment with
    | text s =>
      obtain ⟨hk, hnew⟩ := ih p
      exact ⟨hk, fun h hm => hnew h (by simpa [addFragments] using hm)⟩
    | host tag inner closed =>
      obtain ⟨hread, hform⟩ := p.readContent_kept (String.ofList inner)
      have hadd := TreeKept.addHost (p.readContent (String.ofList inner)).1
        { attributes := readAttributes tag
          content := (p.readContent (String.ofList inner)).2
          parent := some d } hform
      obtain ⟨hk, hnew⟩ := ih _
      have hall := (hread.trans hadd).trans hk
      refine ⟨hall, fun h hm => ?_⟩
      simp only [addFragments, List.mem_cons, Child.host.injEq] at hm
      have hread_le := hread.hosts.length_le
      rcases hm with rfl | hm
      · -- the host itself is appended to the hosts
        exact ⟨hread_le, Nat.lt_of_lt_of_le (by simp [addHost]) hk.hosts.length_le⟩
      · obtain ⟨hle, hlt⟩ := hnew h hm
        refine ⟨Nat.le_trans (Nat.le_trans hread_le ?_) hle, hlt⟩
        simp [addHost]

/-- `setOuterHtml` inserts hosts after the existing ones. -/
theorem setOuterHtml_kept {p : Page} {h : HostId} {markup : String} {r : Replacement}
    (hr : p.setOuterHtml h markup = .ok r) :
    TreeKept p r.page ∧
    ∀ h' ∈ r.inserted, p.hosts.length ≤ h' ∧ h' < r.page.hosts.length := by
  unfold setOuterHtml at hr
  split at hr
  · cases hr
  split at hr
  · cases hr
  rename_i d hd
  split at hr
  · cases hr
  split at hr
  · cases hr
    obtain ⟨hk, hnew⟩ := addFragments_kept d p (fragments markup.toList)
    refine ⟨(hk.trans (.documents _ _)).trans
      (.modifyHost _ _ _ (fun _ => rfl) fun _ _ hf => .inl hf), fun h' hm => ?_⟩
    -- the inserted hosts are those among the new children
    obtain ⟨child, hchild, hhost⟩ := List.mem_filterMap.mp hm
    cases child with
    | markup html => cases hhost
    | host id =>
      cases hhost
      simpa [modifyHost, modifyDocument] using hnew h' hchild
  · cases hr

/-- `setInnerHtml` is a `TreeKept` edit. -/
theorem setInnerHtml_kept {p q : Page} {h : HostId} {markup : String}
    (hq : p.setInnerHtml h markup = .ok q) : TreeKept p q := by
  unfold setInnerHtml at hq
  split at hq
  · cases hq
  · cases hq
    obtain ⟨hk, hform⟩ := p.readContent_kept markup
    exact hk.trans (.modifyHost _ _ _ (fun _ => rfl) fun _ f hf => .inr (hform f hf))

/-- `dispatchHost` is a `TreeKept` edit. -/
theorem dispatchHost_kept {p q : Page} {h : HostId} {n : Notification}
    (hq : p.dispatchHost h n = .ok q) : TreeKept p q := by
  unfold dispatchHost at hq
  split at hq
  · cases hq
    exact .refl p
  split at hq
  · cases hq
  have hk : TreeKept p (p.modifyHost h fun host =>
      { host with dispatched := host.dispatched ++ [n] }) :=
    .modifyHost _ _ _ (fun _ => rfl) fun _ _ hf => .inl hf
  split at hq
  · cases hq
    exact hk.trans (.documents _ _)
  · cases hq
    exact hk

/-! ## Attributes -/

/-- `setIn` preserves the other attributes. -/
theorem lookup_setIn_of_ne {name other : String} (value : String)
    (attributes : List (String × String)) (hne : other ≠ name) :
    lookup (setIn name value attributes) other = lookup attributes other := by
  induction attributes with
  | nil => simp [setIn, lookup, Ne.symm hne]
  | cons a rest ih =>
    simp only [setIn]
    split
    · rename_i ha
      simp [lookup, ha, Ne.symm hne]
    · simp only [lookup, List.find?_cons] at ih ⊢
      split
      · rfl
      · exact ih

/-- `setIn` sets its attribute. -/
theorem lookup_setIn_self (name value : String) (attributes : List (String × String)) :
    lookup (setIn name value attributes) name = some value := by
  induction attributes with
  | nil => simp [setIn, lookup]
  | cons a rest ih =>
    simp only [setIn]
    split
    · simp [lookup]
    · rename_i ha
      rw [lookup, List.find?_cons_of_neg (by simpa using ha)]
      exact ih

/-- Filtering out a name removes its attribute. -/
theorem lookup_removed_self (name : String) (attributes : List (String × String)) :
    lookup (attributes.filter fun a => a.1 != name) name = none := by
  simp [lookup]

/-- Filtering out a name preserves the other attributes. -/
theorem lookup_removed_of_ne {name other : String} (attributes : List (String × String))
    (hne : other ≠ name) :
    lookup (attributes.filter fun a => a.1 != name) other = lookup attributes other := by
  simp only [lookup, List.find?_filter]
  congr 2
  funext a
  by_cases ha : a.1 = other
  · simp [ha, hne]
  · simp [ha]

/-! ## All edits -/

/-- `TreeEdit p q watch`: an edit of the tree other than of the submitting attribute and of
component listeners; with `watch`, observers may be added and removed. -/
inductive TreeEdit : Page → Page → Bool → Prop where
  | addDocument (p : Page) : TreeEdit p p.addDocument.1 false
  | dropDocument (p : Page) (d : DocumentId) : TreeEdit p (p.dropDocument d) false
  | append (p : Page) (d : DocumentId) (h : HostId) (hh : h < p.hosts.length) :
    TreeEdit p (p.append d h) false
  | remove (p : Page) (d : DocumentId) (h : HostId) : TreeEdit p (p.remove d h) false
  | appendMarkup (p : Page) (d : DocumentId) (markup : String) :
    TreeEdit p (p.appendMarkup d markup) false
  | dispatchDocument (p : Page) (d : DocumentId) (n : Notification) :
    TreeEdit p (p.dispatchDocument d n) false
  | newHost (p : Page) (attributes : List (String × String)) (form : Option FormId)
      (markup : Option String) (rejecting : Bool) (hf : ∀ f, form = some f → f < p.forms.length) :
    TreeEdit p (p.newHost attributes form markup rejecting).1 false
  | setAttribute {p q : Page} {h : HostId} {name value : String}
      (hn : name ≠ submittingAttribute) (hq : p.setAttribute h name value = .ok q) :
    TreeEdit p q false
  | removeAttribute {p q : Page} {h : HostId} {name : String}
      (hn : name ≠ submittingAttribute) (hq : p.removeAttribute h name = .ok q) :
    TreeEdit p q false
  | setInnerHtml {p q : Page} {h : HostId} {markup : String}
      (hq : p.setInnerHtml h markup = .ok q) : TreeEdit p q false
  | setOuterHtml {p : Page} {h : HostId} {markup : String} {r : Replacement}
      (hr : p.setOuterHtml h markup = .ok r) : TreeEdit p r.page false
  | dispatchHost {p q : Page} {h : HostId} {n : Notification}
      (hq : p.dispatchHost h n = .ok q) : TreeEdit p q false
  | addForm (p : Page) (data : FormData) : TreeEdit p (p.addForm data).1 false
  | addField (p : Page) (f : FormId) (name value : String) :
    TreeEdit p (p.addField f name value) false
  | setField (p : Page) (f : FormId) (name value : String) :
    TreeEdit p (p.setField f name value) false
  | observe {p q : Page} {f : FormId} {l : ListenerRef} {label : String}
      {reactions : List Reaction}
      (hq : p.addListener f (.observer label reactions) = .ok (q, l)) : TreeEdit p q true
  | unobserve (p : Page) (l : ListenerRef) (hl : p.hasObserver l = true) :
    TreeEdit p (p.removeListener l) true

/-- `newHost` yields no unknown form. -/
private theorem newHost_kept (p : Page) (attributes : List (String × String))
    (form : Option FormId) (markup : Option String) (rejecting : Bool)
    (hf : ∀ f, form = some f → f < p.forms.length) :
    TreeKept p (p.newHost attributes form markup rejecting).1 := by
  cases markup with
  | some markup =>
    obtain ⟨hk, hform⟩ := p.readContent_kept markup
    exact hk.trans (.addHost _ _ hform)
  | none =>
    cases form with
    | some f => exact .addHost _ _ fun g hg => by cases hg; exact hf f rfl
    | none => exact .addHost _ _ fun g hg => by cases hg

/-- `TreeKept` holds of every `TreeEdit`. -/
theorem TreeEdit.kept {p q : Page} {watch : Bool} (e : TreeEdit p q watch) : TreeKept p q := by
  cases e with
  | addDocument | dropDocument | dispatchDocument => exact .documents _ _
  | append d h =>
    have hk := TreeKept.modifyHost p h (fun host => { host with parent := some d })
      (fun _ => rfl) fun _ _ hf => .inl hf
    exact hk.trans (.documents _ _)
  | remove d h =>
    exact TreeKept.trans (.documents _ _) (.modifyHost _ _ _ (fun _ => rfl) fun _ _ hf => .inl hf)
  | appendMarkup d markup => exact (addFragments_kept d p _).1.trans (.documents _ _)
  | newHost attributes form markup rejecting hf => exact newHost_kept p _ _ _ _ hf
  | setAttribute hn hq =>
    unfold Page.setAttribute at hq
    split at hq
    · cases hq
    · cases hq
      refine .modifyHost _ _ _ (fun host => ?_) fun _ _ hf => .inl hf
      simp only [Host.SameMark, Host.marked, lookup_setIn_of_ne _ _ hn.symm]
  | removeAttribute hn hq =>
    unfold Page.removeAttribute at hq
    split at hq
    · cases hq
    · cases hq
      refine .modifyHost _ _ _ (fun host => ?_) fun _ _ hf => .inl hf
      simp only [Host.SameMark, Host.marked, lookup_removed_of_ne _ hn.symm]
  | setInnerHtml hq => exact setInnerHtml_kept hq
  | setOuterHtml hr => exact (setOuterHtml_kept hr).1
  | dispatchHost hq => exact dispatchHost_kept hq
  | addForm data => exact .addForm _ _
  | addField | setField | unobserve => exact .modifyForm _ _ fun _ => ⟨rfl, rfl⟩
  | observe hq =>
    unfold addListener at hq
    split at hq
    · cases hq
    · cases hq
      exact .modifyForm _ _ fun _ => ⟨rfl, rfl⟩

/-! ## The children of documents -/

/-- `p.ChildrenKnown`: every host among the children of a document is a host of the page. -/
def ChildrenKnown (p : Page) : Prop :=
  ∀ d doc, p.document? d = some doc → ∀ h, Child.host h ∈ doc.children → h < p.hosts.length

theorem document?_modifyDocument (p : Page) (d d' : DocumentId) (change : Document → Document) :
    (p.modifyDocument d change).document? d' =
      if d = d' then (p.document? d').map change else p.document? d' := by
  simp only [document?, modifyDocument, List.getElem?_modify]
  split
  · cases p.documents[d']? with
    | none => rfl
    | some slot => rfl
  · simp

theorem mem_splice {h h' : HostId} {new l : List Child} (hm : Child.host h' ∈ splice h new l) :
    Child.host h' ∈ new ∨ Child.host h' ∈ l := by
  induction l with
  | nil => cases hm
  | cons child rest ih =>
    simp only [splice] at hm
    split at hm
    · rcases List.mem_append.mp hm with hnew | hrest
      · exact .inl hnew
      · exact .inr (List.mem_cons_of_mem _ hrest)
    · rcases List.mem_cons.mp hm with rfl | hrest
      · exact .inr List.mem_cons_self
      · exact (ih hrest).imp_right (List.mem_cons_of_mem _)

namespace ChildrenKnown

variable {p q : Page}

/-- `ChildrenKnown` is preserved if hosts are added and documents do not change. -/
theorem of_documents (h : p.ChildrenKnown) (hd : q.documents = p.documents)
    (hle : p.hosts.length ≤ q.hosts.length) : q.ChildrenKnown := by
  intro d doc hdoc h' hh'
  rw [document?, hd] at hdoc
  exact Nat.lt_of_lt_of_le (h d doc hdoc h' hh') hle

/-- `ChildrenKnown` is preserved if a document gets no unknown host. -/
theorem modifyDocument (h : p.ChildrenKnown) (d : DocumentId) {change : Document → Document}
    (hchange : ∀ doc h', Child.host h' ∈ (change doc).children →
      Child.host h' ∈ doc.children ∨ h' < p.hosts.length) :
    (p.modifyDocument d change).ChildrenKnown := by
  intro d' doc' hdoc' h' hh'
  rw [document?_modifyDocument] at hdoc'
  split at hdoc'
  · obtain ⟨doc, hdoc, rfl⟩ := Option.map_eq_some_iff.mp hdoc'
    rcases hchange doc h' hh' with hold | hlt
    · exact h d' doc hdoc h' hold
    · exact hlt
  · exact h d' doc' hdoc' h' hh'

/-- `ChildrenKnown` is preserved by `modifyHost`. -/
theorem modifyHost (h : p.ChildrenKnown) (i : HostId) (change : Host → Host) :
    (p.modifyHost i change).ChildrenKnown :=
  h.of_documents rfl (by simp [Page.modifyHost])

end ChildrenKnown

theorem readContent_tree (p : Page) (markup : String) :
    (p.readContent markup).1.documents = p.documents ∧
      (p.readContent markup).1.hosts = p.hosts ∧
      (p.readContent markup).1.faults = p.faults := by
  unfold readContent
  split <;> exact ⟨rfl, rfl, rfl⟩

theorem addFragments_documents (d : DocumentId) (p : Page) (l : List Fragment) :
    (addFragments d p l).1.documents = p.documents := by
  induction l generalizing p with
  | nil => rfl
  | cons fragment rest ih =>
    cases fragment with
    | text s => exact ih p
    | host tag inner closed => exact (ih _).trans (p.readContent_tree _).1

/-- `splice` replaces the first occurrence of a host. -/
theorem splice_eq {h : HostId} {before : List Child} (hbefore : .host h ∉ before)
    (new after : List Child) :
    splice h new (before ++ .host h :: after) = before ++ new ++ after := by
  induction before with
  | nil => simp [splice]
  | cons child before ih =>
    simp only [List.mem_cons, not_or] at hbefore
    simp [splice, Ne.symm hbefore.1, ih hbefore.2]

/-- `ChildrenKnown` is preserved if a document gets hosts that `addFragments` added. -/
private theorem addFragments_childrenKnown {p : Page} (h : p.ChildrenKnown) (d : DocumentId)
    (l : List Fragment) {change : Document → Document}
    (hchange : ∀ doc h', Child.host h' ∈ (change doc).children →
      Child.host h' ∈ doc.children ∨ Child.host h' ∈ (addFragments d p l).2) :
    ((addFragments d p l).1.modifyDocument d change).ChildrenKnown := by
  obtain ⟨hk, hnew⟩ := addFragments_kept d p l
  refine (h.of_documents (addFragments_documents d p l) hk.hosts.length_le).modifyDocument d ?_
  intro doc h' hh'
  exact (hchange doc h' hh').imp_right fun hm => (hnew h' hm).2

private theorem newHost_documents (p : Page) (attributes : List (String × String))
    (form : Option FormId) (markup : Option String) (rejecting : Bool) :
    (p.newHost attributes form markup rejecting).1.documents = p.documents := by
  cases markup with
  | some markup => exact (p.readContent_tree markup).1
  | none => cases form <;> rfl

/-- `ChildrenKnown` is preserved by every `TreeEdit`. -/
theorem TreeEdit.childrenKnown {p q : Page} {watch : Bool} (e : TreeEdit p q watch)
    (h : p.ChildrenKnown) :
    q.ChildrenKnown := by
  have hle : p.hosts.length ≤ q.hosts.length := e.kept.hosts.length_le
  cases e with
  | addDocument =>
    intro d doc hdoc h' hh'
    have hslot := Option.join_eq_some_iff.mp hdoc
    rcases List.mem_append.mp (List.mem_of_getElem? hslot) with hold | hnew
    · obtain ⟨d', hd'⟩ := List.getElem?_of_mem hold
      exact h d' doc (by rw [document?, hd']; rfl) h' hh'
    · cases List.mem_singleton.mp hnew
      cases hh'
  | dropDocument d =>
    intro d' doc hdoc h' hh'
    have hslot := Option.join_eq_some_iff.mp hdoc
    simp only [Page.dropDocument, List.getElem?_set] at hslot
    split at hslot
    · split at hslot <;> cases hslot
    · exact h d' doc (by rw [document?, hslot]; rfl) h' hh'
  | append d i hi =>
    refine (h.modifyHost i _).modifyDocument d fun doc h' hh' => ?_
    rcases List.mem_append.mp hh' with hold | hnew
    · exact .inl hold
    · cases List.mem_singleton.mp hnew
      exact .inr (by simpa [Page.modifyHost] using hi)
  | remove d i =>
    refine ChildrenKnown.modifyHost (h.modifyDocument d fun doc h' hh' => ?_) i _
    exact .inl (List.mem_filter.mp hh').1
  | appendMarkup d markup =>
    exact addFragments_childrenKnown h d _ fun doc h' hh' => List.mem_append.mp hh'
  | dispatchDocument d n => exact h.modifyDocument d fun _ _ hh' => .inl hh'
  | newHost attributes form markup rejecting hf =>
    exact h.of_documents (newHost_documents p _ _ _ _) hle
  | setAttribute hn hq =>
    unfold Page.setAttribute at hq
    split at hq
    · cases hq
    · cases hq
      exact h.modifyHost _ _
  | removeAttribute hn hq =>
    unfold Page.removeAttribute at hq
    split at hq
    · cases hq
    · cases hq
      exact h.modifyHost _ _
  | setInnerHtml hq =>
    unfold Page.setInnerHtml at hq
    split at hq
    · cases hq
    · cases hq
      exact h.of_documents (p.readContent_tree _).1 hle
  | setOuterHtml hr =>
    unfold Page.setOuterHtml at hr
    split at hr
    · cases hr
    split at hr
    · cases hr
    split at hr
    · cases hr
    split at hr
    · cases hr
      exact ChildrenKnown.modifyHost
        (addFragments_childrenKnown h _ _ fun doc h' hh' => (mem_splice hh').symm) _ _
    · cases hr
  | dispatchHost hq =>
    unfold Page.dispatchHost at hq
    split at hq
    · cases hq
      exact h
    split at hq
    · cases hq
    split at hq
    · cases hq
      exact (h.modifyHost _ _).modifyDocument _ fun _ _ hh' => .inl hh'
    · cases hq
      exact h.modifyHost _ _
  | addForm | addField | setField | unobserve => exact h.of_documents rfl hle
  | observe hq =>
    unfold addListener at hq
    split at hq
    · cases hq
    · cases hq
      exact h.of_documents rfl hle

end Page

end FormSwap
