import FormSwap.Proofs.Carried
import FormSwap.Proofs.Requests

/-!
# One notification for each swap

A pipeline has the payload of its submit. It sends this payload, and the notification of the swap
has the same payload, whatever happens to the form's fields meanwhile. `Page.receivers` lists the
documents and hosts that receive the notification.

Main results:

- `swapOuter_received`, `swapInner_received`: a swap notifies its receivers once, and nothing else
- `poll_notifies`: so does a poll with success, with the payload of its pipeline
- `Along.payloadOf`: the payload of a pipeline is that of its submit
- `one_notification_per_swap`: one request and at most one notification, with the same payload
-/

namespace FormSwap.Page

/-! ## Receivers -/

/-- `Receiver` is a document or a host that may receive an event. -/
inductive Receiver where
  | document (d : DocumentId)
  | host (h : HostId)
deriving DecidableEq, Repr

/-- `p.received x` lists the events that `x` has received, in order. -/
def received (p : Page) : Receiver → List Notification
  | .document d => ((p.document? d).map (·.events)).getD []
  | .host h => ((p.hosts[h]?).map (·.dispatched)).getD []

/-- `p.receivers k` lists the receivers of the notification of a swap by `k`. For an outer swap this
is the document of the host. For an inner swap it is the host, and its document unless that was
dropped; but nothing if the host rejects events. -/
def receivers (p : Page) (k : Component) : List Receiver :=
  match p.hosts[k.host]? with
  | none => []
  | some host =>
    match k.config.swap with
    | .outer => host.parent.toList.map .document
    | .inner =>
      if host.rejecting then []
      else
        .host k.host ::
          (host.parent.toList.filter fun d => (p.document? d).isSome).map .document

/-- `Grafted p q h body`: in the document of the host `h`, the children that `addFragments` yields
for `body` replace `h`, and the hosts it adds are on `q`. The host `h` is disconnected. All other
documents and hosts are those of `p`. -/
def Grafted (p q : Page) (h : HostId) (body : String) : Prop :=
  ∃ host d doc before after, p.hosts[h]? = some host ∧ host.parent = some d ∧
    p.document? d = some doc ∧ doc.children = before ++ .host h :: after ∧ .host h ∉ before ∧
    let made := addFragments d p (Markup.fragments body.toList)
    (q.document? d).map (·.children) = some (before ++ made.2 ++ after) ∧
    (∀ d', d' ≠ d → q.document? d' = p.document? d') ∧
    (q.hosts[h]?).map (·.parent) = some none ∧
    ∀ h', h' ≠ h → q.hosts[h']? = made.1.hosts[h']?

/-- `Refilled p q h body`: the contents of the host `h` are what `readContent` yields for `body`.
All other hosts and the children of all documents are those of `p`. -/
def Refilled (p q : Page) (h : HostId) (body : String) : Prop :=
  (q.hosts[h]?).map (·.content) = some (p.readContent body).2 ∧
  (∀ h', h' ≠ h → q.hosts[h']? = p.hosts[h']?) ∧
  ∀ d, (q.document? d).map (·.children) = (p.document? d).map (·.children)

/-- `Swapped p q c k body`: by the swap mode of `k`, `body` has replaced the host of `c`, or its
contents. In the second case `c` is attached to the form in the new contents, if there is one and
adding the listener does not fail. -/
def Swapped (p q : Page) (c : ComponentId) (k : Component) (body : String) : Prop :=
  match k.config.swap with
  | .outer => p.Grafted q k.host body
  | .inner =>
    p.Refilled q k.host body ∧
    (q.component? c).map (·.form) =
      some (if p.fails .addSubmitListener then none else (p.readContent body).2.form?)

section Received

variable {p q : Page} {d : DocumentId} {h : HostId} {x : Receiver}

/-- `received` depends on the documents and the events of the hosts. -/
theorem received_of_hosts (hd : q.documents = p.documents)
    (hh : q.hosts.map Host.dispatched = p.hosts.map Host.dispatched) :
    q.received x = p.received x := by
  cases x with
  | document d => simp only [received, document?, hd]
  | host h =>
    have hsame := congrArg (·[h]?) hh
    simp only [List.getElem?_map] at hsame
    simp only [received, hsame]

theorem received_of_same (hd : q.documents = p.documents) (hh : q.hosts = p.hosts) :
    q.received x = p.received x :=
  received_of_hosts hd (by rw [hh])

theorem received_modifyDocument {change : Document → Document}
    (hchange : ∀ doc, (change doc).events = doc.events) :
    (p.modifyDocument d change).received x = p.received x := by
  cases x with
  | host h => rfl
  | document d' =>
    simp only [received, document?, modifyDocument, List.getElem?_modify]
    by_cases hd : d = d'
    · subst hd
      cases p.documents[d]? with
      | none => rfl
      | some slot => cases slot <;> simp [hchange]
    · simp [hd]

theorem received_modifyHost {change : Host → Host}
    (hchange : ∀ host, (change host).dispatched = host.dispatched) :
    (p.modifyHost h change).received x = p.received x :=
  received_of_hosts rfl (map_modify_of_eq p.hosts h hchange)

/-- `Untouched` preserves `received`. -/
theorem Untouched.received {c : ComponentId} (h : Untouched c p q) (x : Receiver) :
    q.received x = p.received x := by
  refine received_of_hosts h.documents ?_
  have hdispatched (hosts : List Host) :
      hosts.map Host.dispatched = (hosts.map Host.unmark).map Host.dispatched := by
    rw [List.map_map]
    rfl
  rw [hdispatched, h.hosts, ← hdispatched]

/-- `addHost` preserves `received`. -/
theorem received_addHost {host : Host} (hhost : host.dispatched = []) :
    (p.addHost host).1.received x = p.received x := by
  cases x with
  | document d => rfl
  | host h =>
    simp only [received, addHost, List.getElem?_append]
    split
    · rfl
    · rename_i hlt
      rw [List.getElem?_eq_none (Nat.not_lt.mp hlt)]
      cases hnew : [host][h - p.hosts.length]? with
      | none => rfl
      | some host' =>
        cases List.mem_singleton.mp (List.mem_of_getElem? hnew)
        simp [hhost]

/-- `addFragments` preserves `received`. -/
theorem addFragments_received (d : DocumentId) (p : Page) (l : List Markup.Fragment)
    (x : Receiver) : (addFragments d p l).1.received x = p.received x := by
  induction l generalizing p with
  | nil => rfl
  | cons fragment rest ih =>
    cases fragment with
    | text s => exact ih p
    | host tag inner closed =>
      obtain ⟨hdocuments, hhosts, -⟩ := readContent_tree p (String.ofList inner)
      exact (ih _).trans ((received_addHost rfl).trans (received_of_same hdocuments hhosts))

/-- `dispatchDocument` adds an event to its document, unless that was dropped. -/
theorem received_dispatchDocument (p : Page) (d : DocumentId) (n : Notification) (x : Receiver) :
    (p.dispatchDocument d n).received x =
      p.received x ++ if x = .document d ∧ (p.document? d).isSome = true then [n] else [] := by
  cases x with
  | host h => simp [received, dispatchDocument, modifyDocument]
  | document d' =>
    simp only [received, document?, dispatchDocument, modifyDocument, List.getElem?_modify,
      Receiver.document.injEq]
    by_cases hd : d = d'
    · subst hd
      cases p.documents[d]? with
      | none => simp
      | some slot => cases slot <;> simp
    · simp [hd, Ne.symm hd]

theorem document?_dispatchDocument_of_ne {d' : DocumentId} {n : Notification} (hd : d' ≠ d) :
    (p.dispatchDocument d n).document? d' = p.document? d' := by
  simp [document?, dispatchDocument, modifyDocument, Ne.symm hd]

theorem children_dispatchDocument (p : Page) (d d' : DocumentId) (n : Notification) :
    ((p.dispatchDocument d n).document? d').map (·.children) =
      (p.document? d').map (·.children) := by
  by_cases hd : d' = d
  · subst hd
    simp only [document?, dispatchDocument, modifyDocument, List.getElem?_modify_eq]
    cases p.documents[d']? with
    | none => rfl
    | some slot => cases slot <;> rfl
  · rw [document?_dispatchDocument_of_ne hd]

theorem dispatchDocument_hosts (p : Page) (d : DocumentId) (n : Notification) :
    (p.dispatchDocument d n).hosts = p.hosts := rfl

/-- `dispatchHost` adds an event to its host, and to its document unless that was dropped, and
preserves the tree. A host that rejects events is unchanged. -/
theorem received_dispatchHost {host : Host} {n : Notification} (hhost : p.hosts[h]? = some host) :
    (host.rejecting = true → ∃ e, p.dispatchHost h n = .error e) ∧
    (host.rejecting = false → ∃ q, p.dispatchHost h n = .ok q ∧
      q.hosts.map Host.content = p.hosts.map Host.content ∧
      (∀ h', h' ≠ h → q.hosts[h']? = p.hosts[h']?) ∧
      (∀ d, (q.document? d).map (·.children) = (p.document? d).map (·.children)) ∧
      ∀ x, q.received x =
        p.received x ++ if x = .host h ∨ ∃ d, host.parent = some d ∧ x = .document d ∧
          (p.document? d).isSome = true then [n] else []) := by
  unfold dispatchHost
  rw [hhost]
  refine ⟨fun hrejects => ⟨.eventRejected, by simp [hrejects]⟩, fun hrejects => ?_⟩
  -- the host's own list first
  have hown (x : Receiver) :
      (p.modifyHost h fun host => { host with dispatched := host.dispatched ++ [n] }).received x =
        p.received x ++ if x = .host h then [n] else [] := by
    cases x with
    | document d => simp [received, modifyHost, document?]
    | host h' =>
      simp only [received, modifyHost, List.getElem?_modify, Receiver.host.injEq]
      by_cases hh : h = h'
      · subst hh
        simp [hhost]
      · simp [hh, Ne.symm hh]
  have hcontent : (p.modifyHost h fun host =>
      { host with dispatched := host.dispatched ++ [n] }).hosts.map Host.content =
        p.hosts.map Host.content := map_modify_of_eq p.hosts h fun _ => rfl
  have helse (h' : HostId) (hh' : h' ≠ h) : (p.modifyHost h fun host =>
      { host with dispatched := host.dispatched ++ [n] }).hosts[h']? = p.hosts[h']? :=
    List.getElem?_modify_ne _ _ (Ne.symm hh')
  simp only [hrejects, Bool.false_eq_true, if_false]
  cases hparent : host.parent with
  | none => exact ⟨_, rfl, hcontent, helse, fun d => rfl, fun x => by simp [hown]⟩
  | some d =>
    refine ⟨_, rfl, hcontent, helse, fun d' => children_dispatchDocument _ d d' n, fun x => ?_⟩
    rw [received_dispatchDocument, hown, List.append_assoc]
    congr 1
    cases x with
    | host h' => simp
    | document d' =>
      by_cases hd : d = d'
      · subst hd
        simp [modifyHost, document?]
      · simp [Ne.symm hd]

end Received

/-! ## Swaps -/

section Swaps

variable {p q r : Page} {c : ComponentId} {k : Component} {host : Host} {body : String}
  {n : Notification}

/-- `Grafted` depends on the children of the documents, the documents other than that of the host,
and the hosts of the second page. -/
theorem Grafted.of_same {h : HostId} (hg : p.Grafted q h body)
    (hchildren : ∀ d, (r.document? d).map (·.children) = (q.document? d).map (·.children))
    (hothers : ∀ d, (p.hosts[h]?).bind (·.parent) ≠ some d → r.document? d = q.document? d)
    (hparent : (r.hosts[h]?).map (·.parent) = (q.hosts[h]?).map (·.parent))
    (helse : ∀ h', h' ≠ h → r.hosts[h']? = q.hosts[h']?) : p.Grafted r h body := by
  obtain ⟨host, d, doc, before, after, hhost, hin, hdoc, hsplit, hbefore, hspliced, hrest,
    hgone, hmade⟩ := hg
  refine ⟨host, d, doc, before, after, hhost, hin, hdoc, hsplit, hbefore,
    (hchildren d).trans hspliced, fun d' hd' => ?_, hparent.trans hgone,
    fun h' hh' => (helse h' hh').trans (hmade h' hh')⟩
  have hnot : (p.hosts[h]?).bind (·.parent) ≠ some d' := by
    rw [hhost, Option.bind_some, hin]
    exact fun heq => hd' (Option.some.inj heq).symm
  exact (hothers d' hnot).trans (hrest d' hd')

theorem releaseForm_tree (p : Page) (c : ComponentId) :
    (p.releaseForm c).documents = p.documents ∧ (p.releaseForm c).hosts = p.hosts := by
  unfold releaseForm
  split <;> exact ⟨rfl, rfl⟩

/-- `adopt` preserves documents and hosts. -/
theorem adopt_tree (c : ComponentId) (p : Page) (l : List HostId) :
    (adopt c p l).documents = p.documents ∧ (adopt c p l).hosts = p.hosts := by
  induction l generalizing p with
  | nil => exact ⟨rfl, rfl⟩
  | cons h rest ih =>
    unfold adopt
    split
    · rename_i hmount
      obtain ⟨rfl, f, config, notices, hf, rfl⟩ := mount_eq hmount
      exact ih _
    · rename_i hmount
      obtain ⟨notices, rfl⟩ := mount_error_eq hmount
      exact ih _

/-- `setOuterHtml` grafts the markup into the document of the host, and preserves `received`. -/
theorem setOuterHtml_received {h : HostId} {r : Replacement}
    (hr : p.setOuterHtml h body = .ok r) :
    (∀ x, r.page.received x = p.received x) ∧
      (∃ host, p.hosts[h]? = some host ∧ host.parent = some r.parent) ∧
      (r.page.document? r.parent).isSome = true ∧ p.Grafted r.page h body := by
  unfold setOuterHtml at hr
  split at hr
  · cases hr
  split at hr
  · cases hr
  rename_i d hd
  split at hr
  · cases hr
  rename_i doc hdoc
  split at hr
  · rename_i hchild
    cases hr
    obtain ⟨host, hhost, hparent⟩ := Option.bind_eq_some_iff.mp hd
    have hdocuments := addFragments_documents d p (Markup.fragments body.toList)
    have hlt := Nat.lt_of_lt_of_le (List.getElem?_eq_some_iff.mp hhost).1
      (addFragments_kept d p (Markup.fragments body.toList)).1.hosts.length_le
    have hslot : p.documents[d]? = some (some doc) := Option.join_eq_some_iff.mp hdoc
    refine ⟨fun x => ?_, ⟨host, hhost, hparent⟩, ?_, ?_⟩
    · have hreceived := addFragments_received d p (Markup.fragments body.toList) x
      refine (received_modifyHost ?_).trans ((received_modifyDocument ?_).trans hreceived) <;>
        exact fun _ => rfl
    · simp [document?, modifyHost, modifyDocument, hdocuments, hslot]
    · -- the host is replaced where it occurs first
      obtain ⟨before, after, hsplit, hbefore⟩ :=
        List.eq_append_cons_of_mem (List.contains_iff_mem.mp hchild)
      refine ⟨host, d, doc, before, after, hhost, hparent, hdoc, hsplit, hbefore, ?_, ?_, ?_, ?_⟩
      · simp [document?, modifyHost, modifyDocument, hdocuments, hslot, hsplit,
          splice_eq hbefore]
      · intro d' hd'
        simp [document?, modifyHost, modifyDocument, hdocuments, Ne.symm hd']
      · simp [modifyHost, modifyDocument, List.getElem?_eq_getElem hlt]
      · intro h' hh'
        simp [modifyHost, modifyDocument, Ne.symm hh']
  · cases hr

/-- `swapOuter` notifies the document of the host, once, and nothing else. -/
theorem swapOuter_received (hhost : p.hosts[k.host]? = some host) (hc : k.config.swap = .outer)
    (hq : p.swapOuter c k.host body n = .ok q) :
    (∀ x, q.received x = p.received x ++ if x ∈ p.receivers k then [n] else []) ∧
      p.Swapped q c k body := by
  unfold swapOuter at hq
  split at hq
  · cases hq
  rename_i r hr
  cases hq
  obtain ⟨hreceived, ⟨host', hhost', hparent⟩, halive, hgraft⟩ := setOuterHtml_received hr
  rw [hhost] at hhost'
  cases hhost'
  -- neither `retiring` nor `adopt` edits the tree
  have hreleased :=
    releaseForm_tree (r.page.modifyComponent c fun comp => { comp with detached := true }) c
  have hadopted := adopt_tree c
    ((r.page.modifyComponent c fun comp => { comp with detached := true }).releaseForm c) r.inserted
  generalize adopt c ((r.page.modifyComponent c fun comp =>
    { comp with detached := true }).releaseForm c) r.inserted = z at hadopted ⊢
  have hdocuments : z.documents = r.page.documents := hadopted.1.trans hreleased.1
  have hhosts : z.hosts = r.page.hosts := hadopted.2.trans hreleased.2
  have hdocument (d : DocumentId) : z.document? d = r.page.document? d := by
    rw [document?, hdocuments, document?]
  refine ⟨fun x => ?_, ?_⟩
  · have hreceivers : x ∈ p.receivers k ↔ x = .document r.parent := by
      simp [receivers, hhost, hc, hparent]
    rw [received_dispatchDocument, received_of_same hdocuments hhosts, hreceived, hdocument]
    simp only [hreceivers, halive, and_true]
  · simp only [Swapped, hc]
    refine hgraft.of_same (fun d => ?_) (fun d hd => ?_) ?_ fun h _ => ?_
    · rw [children_dispatchDocument, hdocument]
    · have hne : d ≠ r.parent := by
        rw [hhost, Option.bind_some, hparent] at hd
        exact fun heq => hd (congrArg some heq.symm)
      rw [document?_dispatchDocument_of_ne hne, hdocument]
    · rw [dispatchDocument_hosts, hhosts]
    · rw [dispatchDocument_hosts, hhosts]

/-- `rebind` preserves documents and hosts. -/
theorem rebind_tree (p : Page) (c : ComponentId) (h : HostId) :
    (p.rebind c h).documents = p.documents ∧ (p.rebind c h).hosts = p.hosts := by
  obtain ⟨hdocuments, hhosts⟩ := releaseForm_tree p c
  unfold rebind
  dsimp only
  split
  · exact ⟨hdocuments, hhosts⟩
  · split
    · rename_i hq
      rw [listen_eq hq]
      exact ⟨hdocuments, hhosts⟩
    · exact ⟨hdocuments, hhosts⟩

/-- `listen` binds the component to the form, unless adding the listener fails. -/
private theorem listen_form (hk : p.component? c = some k) (f : FormId) :
    (p.fails .addSubmitListener = true → ∃ e, p.listen c f = .error e) ∧
    (p.fails .addSubmitListener = false →
      ∃ q, p.listen c f = .ok q ∧ (q.component? c).map (·.form) = some (some f)) := by
  refine ⟨fun hfails => ⟨_, by simp only [listen, addListener, hfails, if_true]; rfl⟩,
    fun hworks => ?_⟩
  cases hq : p.listen c f with
  | error e => simp [listen, addListener, hworks] at hq
  | ok q =>
    refine ⟨q, rfl, ?_⟩
    rw [listen_eq hq, component?_of_modify (p := p) rfl, if_pos rfl, hk]
    rfl

/-- `rebind` binds the component to the form in its host, if there is one and adding the listener
does not fail. -/
theorem rebind_form (hk : p.component? c = some k) (h : HostId) :
    ((p.rebind c h).component? c).map (·.form) =
      some (if p.fails .addSubmitListener then none else p.queryForm h) := by
  have hreleased : (p.releaseForm c).component? c = some k.unbound := by
    rw [releaseForm_eq hk, component?_of_modify (p := p) rfl, if_pos rfl, hk]
    rfl
  have hquery : (p.releaseForm c).queryForm h = p.queryForm h := by
    unfold queryForm
    rw [(releaseForm_tree p c).2]
  have hfails : (p.releaseForm c).fails .addSubmitListener = p.fails .addSubmitListener := by
    rw [releaseForm_eq hk]
    rfl
  have hunbound : ((p.releaseForm c).component? c).map (·.form) = some none := by
    rw [hreleased]
    rfl
  unfold rebind
  dsimp only
  rw [hquery]
  cases p.queryForm h with
  | none =>
    rw [ite_self]
    exact hunbound
  | some f =>
    obtain ⟨hrefused, hlistens⟩ := listen_form hreleased f
    rw [hfails] at hrefused hlistens
    dsimp only
    cases hfault : p.fails .addSubmitListener with
    | true =>
      obtain ⟨e, he⟩ := hrefused hfault
      rw [he]
      exact hunbound
    | false =>
      obtain ⟨q, hq, hform⟩ := hlistens hfault
      rw [hq]
      exact hform

/-- `setInnerHtml` preserves `received` and the other parts of the host. -/
theorem setInnerHtml_received {h : HostId} (hhost : p.hosts[h]? = some host)
    (hq : p.setInnerHtml h body = .ok q) :
    (∀ x, q.received x = p.received x) ∧ q.documents = p.documents ∧ q.faults = p.faults ∧
      q.hosts[h]? = some { host with content := (p.readContent body).2 } ∧
      ∀ h', h' ≠ h → q.hosts[h']? = p.hosts[h']? := by
  obtain ⟨hdocuments, hhosts, hfaults⟩ := readContent_tree p body
  have hpage : q = (p.readContent body).1.modifyHost h fun host =>
      { host with content := (p.readContent body).2 } := by
    unfold setInnerHtml at hq
    split at hq <;> cases hq
    rfl
  subst hpage
  refine ⟨fun x => ?_, hdocuments, hfaults, ?_, fun h' hh' => ?_⟩
  · refine (received_modifyHost ?_).trans (received_of_same hdocuments hhosts)
    exact fun _ => rfl
  · simp [modifyHost, hhosts, hhost]
  · simp [modifyHost, hhosts, Ne.symm hh']

/-- The receivers of an inner swap: the host, and its document unless that was dropped. -/
theorem mem_receivers_inner (hhost : p.hosts[k.host]? = some host) (hc : k.config.swap = .inner)
    (hrejects : host.rejecting = false) {x : Receiver} :
    x ∈ p.receivers k ↔ x = .host k.host ∨
      ∃ d, host.parent = some d ∧ x = .document d ∧ (p.document? d).isSome = true := by
  simp only [receivers, hhost, hc, hrejects, Bool.false_eq_true, if_false, List.mem_cons,
    List.mem_map, List.mem_filter, Option.mem_toList]
  constructor
  · rintro (hown | ⟨d, ⟨hd, halive⟩, rfl⟩)
    · exact .inl hown
    · exact .inr ⟨d, hd, rfl, halive⟩
  · rintro (hown | ⟨d, hd, rfl, halive⟩)
    · exact .inl hown
    · exact .inr ⟨d, ⟨hd, halive⟩, rfl⟩

/-- `swapInner` notifies the host and its document, once, and nothing else. A host that rejects
events notifies nothing, but its contents are replaced. -/
theorem swapInner_received (hhost : p.hosts[k.host]? = some host)
    (hk : p.component? c = some k) (hc : k.config.swap = .inner)
    (hq : p.swapInner c k.host body n = .ok q) :
    (∀ x, q.received x = p.received x ++ if x ∈ p.receivers k then [n] else []) ∧
      p.Swapped q c k body := by
  unfold swapInner at hq
  split at hq
  · cases hq
  rename_i q₁ hset
  obtain ⟨hreceived₁, hdocuments₁, hfaults₁, hhost₁, helse₁⟩ := setInnerHtml_received hhost hset
  -- the component is bound to the form in the new contents
  obtain ⟨hdocuments, hhosts⟩ := rebind_tree q₁ c k.host
  have hform := rebind_form (((setInnerHtml_kept hset).component? c).trans hk) k.host
  have hquery : q₁.queryForm k.host = (p.readContent body).2.form? := by
    simp [queryForm, hhost₁]
  have hfails : q₁.fails .addSubmitListener = p.fails .addSubmitListener := by
    simp only [fails, hfaults₁]
  rw [hquery, hfails] at hform
  have hhost₂ : (q₁.rebind c k.host).hosts[k.host]? =
      some { host with content := (p.readContent body).2 } := by rw [hhosts, hhost₁]
  have helse (h : HostId) (hh : h ≠ k.host) :
      (q₁.rebind c k.host).hosts[h]? = p.hosts[h]? := by rw [hhosts, helse₁ h hh]
  have hdocument (d : DocumentId) : (q₁.rebind c k.host).document? d = p.document? d := by
    unfold document?
    rw [hdocuments, hdocuments₁]
  -- the host dispatches the event, unless it rejects it
  obtain ⟨hrefuses, htells⟩ := received_dispatchHost (n := n) hhost₂
  dsimp only at hq hrefuses htells
  cases hrejects : host.rejecting with
  | true =>
    obtain ⟨e, he⟩ := hrefuses hrejects
    rw [he] at hq
    cases hq
    have hnobody : p.receivers k = [] := by simp [receivers, hhost, hc, hrejects]
    refine ⟨fun x => ?_, ?_⟩
    · rw [hnobody, if_neg List.not_mem_nil, List.append_nil]
      exact (received_of_same hdocuments hhosts).trans (hreceived₁ x)
    · simp only [Swapped, hc]
      refine ⟨⟨?_, helse, fun d => congrArg _ (hdocument d)⟩, hform⟩
      show ((q₁.rebind c k.host).hosts[k.host]?).map (·.content) = _
      rw [hhost₂]
      rfl
  | false =>
    obtain ⟨q₂, hq₂, hcontent, helse₂, hchildren, hreceived⟩ := htells hrejects
    rw [hq₂] at hq
    cases hq
    refine ⟨fun x => ?_, ?_⟩
    · rw [hreceived x, received_of_same hdocuments hhosts, hreceived₁ x]
      simp only [mem_receivers_inner hhost hc hrejects, hdocument]
    · have hsame := congrArg (·[k.host]?) hcontent
      simp only [List.getElem?_map, hhost₂] at hsame
      simp only [Swapped, hc]
      rw [(dispatchHost_kept hq₂).component?]
      exact ⟨⟨hsame, fun h hh => (helse₂ h hh).trans (helse h hh),
        fun d => (hchildren d).trans (congrArg _ (hdocument d))⟩, hform⟩

end Swaps

/-! ## Polls -/

section Polls

variable {p q r : Page} {c : ComponentId} {k : Component} {s : PipelineId} {body : String}

/-- The contents that `readContent` yields depend on the number of forms only. -/
private theorem readContent_snd (p : Page) (markup : String) : (p.readContent markup).2 =
    .markup markup ((Markup.readForm? markup.toList).map fun _ => p.forms.length) := by
  unfold readContent
  split
  · rename_i hnone
    rw [hnone]
    rfl
  · rename_i hsome
    rw [hsome]
    rfl

/-- `addFragments` does not read the transport. -/
private theorem addFragments_withTransport (d : DocumentId) (p : Page) (transport : MockTransport)
    (l : List Markup.Fragment) :
    addFragments d { p with transport } l =
      ({ (addFragments d p l).1 with transport }, (addFragments d p l).2) := by
  induction l generalizing p with
  | nil => rfl
  | cons fragment rest ih =>
    cases fragment with
    | text s => simp only [addFragments, ih]
    | host tag inner closed =>
      have hread : ({ p with transport } : Page).readContent (String.ofList inner) =
          ({ (p.readContent (String.ofList inner)).1 with transport },
            (p.readContent (String.ofList inner)).2) := by
        unfold readContent
        split <;> rfl
      have hrest := ih ((p.readContent (String.ofList inner)).1.addHost
        { attributes := Markup.readAttributes tag
          content := (p.readContent (String.ofList inner)).2
          parent := some d }).1
      simp only [addFragments, hread]
      exact congrArg (fun x => (x.1, Child.host _ :: x.2)) hrest

/-- `Swapped` does not read the transport of the first page. -/
private theorem Swapped.of_withTransport {transport : MockTransport}
    (hs : ({ p with transport } : Page).Swapped q c k body) : p.Swapped q c k body := by
  unfold Swapped at hs ⊢
  split
  · rename_i hc
    rw [hc] at hs
    obtain ⟨host, d, doc, before, after, hhost, hin, hdoc, hsplit, hbefore, hmade⟩ := hs
    rw [addFragments_withTransport] at hmade
    exact ⟨host, d, doc, before, after, hhost, hin, hdoc, hsplit, hbefore, hmade⟩
  · rename_i hc
    rw [hc, Refilled, readContent_snd] at hs
    rw [Refilled, readContent_snd]
    exact hs

/-- `Swapped` depends on the documents, hosts and form of the second page. -/
theorem Swapped.of_same (hs : p.Swapped q c k body) (hdocuments : r.documents = q.documents)
    (hparent : r.hosts.map Host.parent = q.hosts.map Host.parent)
    (hcontent : r.hosts.map Host.content = q.hosts.map Host.content)
    (helse : ∀ h, h ≠ k.host → r.hosts[h]? = q.hosts[h]?)
    (hform : (r.component? c).map (·.form) = (q.component? c).map (·.form)) :
    p.Swapped r c k body := by
  have hdocument (d : DocumentId) : r.document? d = q.document? d := by
    unfold document?
    rw [hdocuments]
  have hparent := congrArg (·[k.host]?) hparent
  have hcontent := congrArg (·[k.host]?) hcontent
  simp only [List.getElem?_map] at hparent hcontent
  unfold Swapped at hs ⊢
  split
  · rename_i hc
    rw [hc] at hs
    exact hs.of_same (fun d => congrArg _ (hdocument d)) (fun d _ => hdocument d) hparent helse
  · rename_i hc
    rw [hc] at hs
    obtain ⟨⟨hheld, hothers, hchildren⟩, hattached⟩ := hs
    refine ⟨⟨hcontent.trans hheld, fun h hh => (helse h hh).trans (hothers h hh), fun d => ?_⟩,
      hform.trans hattached⟩
    rw [hdocument]
    exact hchildren d

/-- The transition to the settle delay preserves `received` and `Swapped`. -/
theorem Settled.swapped (h : Settled q s c r) (hs : p.Swapped q c k body)
    (hmount : ∀ k', q.component? c = some k' → k'.host = k.host) :
    (∀ x, r.received x = q.received x) ∧ p.Swapped r c k body := by
  cases h with
  | sleeps => exact ⟨fun x => received_of_same rfl rfl, hs.of_same rfl rfl rfl (fun _ _ => rfl) rfl⟩
  | endsGone =>
    exact ⟨fun x => received_of_same rfl rfl, hs.of_same rfl rfl rfl (fun _ _ => rfl) rfl⟩
  | @ends k' hk clock notices =>
    -- `unmark` changes no other part of the host
    refine ⟨fun x => received_of_hosts rfl (map_hostsUnmarking q k'.host fun _ => rfl),
      hs.of_same rfl (map_hostsUnmarking q k'.host fun _ => rfl)
        (map_hostsUnmarking q k'.host fun _ => rfl) (fun h hh => ?_) ?_⟩
    · rw [← hmount k' hk] at hh
      exact getElem?_hostsUnmarking (Ne.symm hh)
    · rw [component?_of_modify (p := q) rfl, if_pos rfl, Option.map_map]
      rfl

/-- `poll` with success notifies its receivers of the payload, once, and nothing else. -/
theorem poll_notifies {pipe : Pipeline} {n : Nat} (hpipe : p.pipelines[s]? = some pipe)
    (hok : p.verdict s = some (.ok n)) :
    ∃ k payload response, p.component? pipe.owner = some k ∧ p.payloadOf s = some payload ∧
      p.outcomeOf s = some (.ok response) ∧
      (∀ x, (p.poll s).received x =
        p.received x ++ if x ∈ p.receivers k then [⟨payload.encode⟩] else []) ∧
      p.Swapped (p.poll s) pipe.owner k response.body := by
  obtain ⟨payload, response, transport, q, h⟩ := poll_succeeds hpipe hok
  have hq := h.applied
  unfold applyResponse at hq
  split at hq
  · cases hq
  rename_i k hk
  have hk : p.component? pipe.owner = some k := hk
  split at hq
  swap
  · cases hq
  rename_i hconnected
  obtain ⟨host, hhost⟩ : ∃ host, p.hosts[k.host]? = some host := by
    cases hhost : p.hosts[k.host]? with
    | none => simp [hhost] at hconnected
    | some host => exact ⟨host, rfl⟩
  -- the response is swapped in
  have hswap : (∀ x, q.received x =
      p.received x ++ if x ∈ p.receivers k then [⟨payload.encode⟩] else []) ∧
      p.Swapped q pipe.owner k response.body := by
    dsimp only at hq
    split at hq
    · rename_i hswapped
      cases hq
      split at hswapped
      · rename_i hc
        obtain ⟨hreceived, hdone⟩ :=
          swapOuter_received (p := { p with transport }) hhost hc hswapped
        exact ⟨hreceived, hdone.of_withTransport⟩
      · rename_i hc
        obtain ⟨hreceived, hdone⟩ :=
          swapInner_received (p := { p with transport }) hhost hk hc hswapped
        exact ⟨hreceived, hdone.of_withTransport⟩
    · cases hq
  -- and the pipeline goes to the settle delay
  obtain ⟨sleep, hpolled'⟩ : ∃ sleep, p.poll s =
      (q.note (resultNotice (.ok payload.size))).settle s pipe.owner sleep := ⟨_, h.polled⟩
  have hsettled := settle_settled (q.note (resultNotice (.ok payload.size))) s pipe.owner sleep
  rw [← hpolled'] at hsettled
  have hnoted : p.Swapped (q.note (resultNotice (.ok payload.size))) pipe.owner k response.body :=
    hswap.2
  have hmount (k' : Component) (hk' : q.component? pipe.owner = some k') : k'.host = k.host := by
    have hcourse := applyResponse_course (p := { p with transport }) h.exchanging h.applied
    exact (hcourse.sameMount hk hk').1
  obtain ⟨hquiet, hkept⟩ := hsettled.swapped hnoted hmount
  exact ⟨k, payload, response, hk, h.carries, h.answered,
    fun x => (hquiet x).trans (hswap.1 x), hkept⟩

end Polls

/-! ## The payload of a pipeline -/

section Payloads

variable {p q : Page} {c : ComponentId} {s : PipelineId} {payload : Payload} {l : List Moment}

private theorem payloadOf_of_setStage {stage : Stage}
    (h : (p.setStage s stage).payloadOf s = some payload) : stage.payload? = some payload := by
  obtain ⟨pipe', hpipe', hstage⟩ := Option.bind_eq_some_iff.mp h
  simp only [setStage, modifyPipeline, List.getElem?_modify_eq] at hpipe'
  obtain ⟨pipe, -, rfl⟩ := Option.map_eq_some_iff.mp hpipe'
  exact hstage

/-- `resume` keeps the payload only of a pipeline that stays pending. -/
private theorem resume_payloadOf {x : Exchange} (h : (x.resume s c).payloadOf s = some payload) :
    ∃ q call, x = .waiting q call payload := by
  cases x with
  | waiting q call sent =>
    cases payloadOf_of_setStage h
    exact ⟨q, call, rfl⟩
  | ended q result =>
    obtain ⟨pipe', hpipe', hstage⟩ := Option.bind_eq_some_iff.mp h
    have hpast := settle_rank hpipe'
    have hle := Stage.rank_of_payload? hstage
    omega

private theorem pollCall_waiting {call call' : Call} {sent : Payload}
    (h : p.pollCall c call payload = .waiting q call' sent) : sent = payload := by
  unfold pollCall at h
  split at h
  · cases h
    rfl
  · unfold receive at h
    split at h
    · cases h
    · split at h
      · cases h
      · split at h <;> cases h

/-- `poll` does not change the payload of its pipeline. -/
theorem poll_payloadOf (h : (p.poll s).payloadOf s = some payload) :
    p.payloadOf s = some payload := by
  obtain ⟨pipe', hpipe', hstage⟩ := Option.bind_eq_some_iff.mp h
  obtain ⟨⟨owner, stage, aborted⟩, hpipe, -⟩ := (poll_polledAt p s).own pipe' hpipe'
  unfold poll at h
  rw [hpipe] at h
  have hstill (hpayload : stage.payload? = some payload) : p.payloadOf s = some payload := by
    simp [payloadOf, hpipe, hpayload]
  cases aborted with
  | true =>
    simp only [if_true, dropAborted] at h
    cases payloadOf_of_setStage h
  | false =>
    simp only [Bool.false_eq_true, if_false] at h
    cases stage with
    | accepted f read =>
      obtain ⟨q, call, hx⟩ := resume_payloadOf h
      unfold firstExchange at hx
      cases read with
      | error e => cases hx
      | ok sent =>
        dsimp only at hx
        split at hx
        · cases hx
        · cases pollCall_waiting hx
          exact hstill rfl
    | awaiting call sent =>
      obtain ⟨q, call', hx⟩ := resume_payloadOf h
      cases pollCall_waiting hx
      exact hstill rfl
    | settling sleep =>
      -- the request was answered
      have hreached : (p.settle s owner sleep).Reached s 2 := by
        obtain ⟨sub'', hsub'', -⟩ := Option.bind_eq_some_iff.mp h
        exact ⟨sub'', hsub'', settle_rank hsub''⟩
      rw [hreached.payloadOf] at h
      cases h
    | finished => exact h

/-- An event does not change the payload of a pipeline. -/
theorem effect_payloadOf (hp : p.InStep) (hs : s < p.pipelines.length) (e : Event)
    (h : (e.effect p).payloadOf s = some payload) : p.payloadOf s = some payload := by
  cases hpolled : e.isPoll s with
  | true =>
    rw [Event.isPoll_iff.mp hpolled] at h
    exact poll_payloadOf h
  | false =>
    have hpipe : p.pipelines[s]? = some p.pipelines[s] := List.getElem?_eq_getElem hs
    cases hopen : p.pipelines[s].isOpen with
    | true =>
      rw [payloadOf, effect_accepted hp hpipe hopen hpolled] at h
      rw [payloadOf, hpipe]
      exact h
    | false =>
      -- it has ended, and does not start again
      have hended : p.Reached s 2 := by
        refine ⟨_, hpipe, ?_⟩
        unfold Pipeline.isOpen at hopen
        split at hopen
        · rename_i hfinished
          rw [hfinished]
          simp [Stage.rank]
        · cases hopen
      rw [(hended.course (effect_course p e)).payloadOf] at h
      cases h

/-- The payload of a pipeline is that of its submit. -/
theorem Along.payloadOf (h : Along p l q) (hl : ∀ n ∈ l, n.page.InStep)
    (hs : s < p.pipelines.length) (hq : q.payloadOf s = some payload) :
    p.payloadOf s = some payload := by
  induction h with
  | nil h =>
    unfold Page.payloadOf at hq ⊢
    rwa [h.pipelines_of_outside] at hq
  | @cons p _ m rest h _ ih =>
    have hsame := h.pipelines_of_outside
    have hsm : s < m.page.pipelines.length := by rw [hsame]; exact hs
    have hlt : s < (m.event.effect m.page).pipelines.length := by
      obtain ⟨pipe, hpipe, -⟩ := (effect_course m.page m.event).pipelineKept s _
        (List.getElem?_eq_getElem hsm)
      exact (List.getElem?_eq_some_iff.mp hpipe).1
    have hstep := effect_payloadOf (hl m (by simp)) hsm m.event
      (ih (fun n hn => hl n (by simp [hn])) hlt hq)
    unfold Page.payloadOf at hstep ⊢
    rwa [hsame] at hstep

/-- `toSend` carries the payload. -/
theorem carries_of_mem_toSend {request : FormRequest} (h : request ∈ p.toSend s) :
    ∃ payload, p.payloadOf s = some payload ∧ request.Carries payload := by
  unfold toSend at h
  split at h
  · rename_i f read hpipe
    cases read with
    | error e => cases h
    | ok payload =>
      refine ⟨payload, by simp [Page.payloadOf, hpipe, Stage.payload?, Except.toOption], ?_⟩
      simp only [requestFor, requestOf] at h
      cases hform : p.forms[f]? with
      | none => simp [hform, Except.toOption] at h
      | some form =>
        rw [hform] at h
        dsimp only at h
        cases hbuild : FormRequest.build form.data.method form.data.action payload with
        | error e => simp [hbuild, Except.toOption] at h
        | ok built =>
          rw [hbuild] at h
          cases List.mem_singleton.mp h
          exact FormRequest.build_carries hbuild
  · cases h

end Payloads

/-! ## Submits and their notifications -/

/-- `m.succeeds s`: the pipeline `s` succeeds at the moment `m`. -/
def Moment.succeeds (s : PipelineId) (m : Moment) : Bool :=
  m.event.isPoll s && (m.page.verdict s).any (·.isOk)

theorem Moment.succeeds_iff {s : PipelineId} {m : Moment} :
    m.succeeds s = true ↔ m.event = .poll s ∧ ∃ n, m.page.verdict s = some (.ok n) := by
  simp only [succeeds, Bool.and_eq_true, Event.isPoll_iff, Option.any_eq_true]
  refine and_congr_right fun _ => ⟨?_, ?_⟩
  · rintro ⟨x, hx, hok⟩
    cases x with
    | error e => cases hok
    | ok n => exact ⟨n, hx⟩
  · rintro ⟨n, hn⟩
    exact ⟨_, hn, rfl⟩

/-- A pipeline succeeds at most once. -/
theorem Along.succeeds_le_one {p q : Page} {l : List Moment} {s : PipelineId}
    (h : Along p l q) : l.countP (·.succeeds s) ≤ 1 := by
  induction h with
  | nil => simp
  | @cons _ _ m rest _ hrest ih =>
    rw [List.countP_cons]
    split
    · -- it has no verdict at any later moment
      rename_i hsucceeds
      obtain ⟨hpolled, n, hok⟩ := Moment.succeeds_iff.mp hsucceeds
      rw [hpolled] at hrest
      have hnone : rest.countP (·.succeeds s) = 0 := by
        refine List.countP_eq_zero.mpr fun r hr hagain => ?_
        obtain ⟨-, n', hok'⟩ := Moment.succeeds_iff.mp hagain
        rw [((poll_reached hok).course (hrest.course_of_mem hr)).verdict] at hok'
        cases hok'
      omega
    · exact ih

/-- A pipeline has the fields of its form at the time of the submit as its payload, followed by the
submitter: every request it sends carries this payload. It succeeds at most once. When it does, the
response is swapped in, each of the swap's receivers gets one notification, with the payload as it
was sent, and no other receiver gets any. Accepting the submit, and every poll without success,
leaves the page `Untouched`: it notifies nothing and swaps nothing in. -/
theorem one_notification_per_swap {actions : List Action} {before after : List Moment}
    {m : Moment} {c : ComponentId} {e : SubmitEvent} {s : PipelineId}
    (hrun : trace {} actions = before ++ m :: after) (hm : m.event = .handle c e)
    (hstarted : (m.page.handleSubmit c e).2.2 = .started) (hs : s = m.page.pipelines.length) :
    ∃ k f form payload, m.page.component? c = some k ∧ k.form = some f ∧
      m.page.forms[f]? = some form ∧
      payload.pairs = form.data.fields ++ e.submitter.toList.map (fun x => (x.name, x.value)) ∧
      (∀ request ∈ sentIn s after, request.Carries payload) ∧
      Untouched c m.page (m.event.effect m.page) ∧
      (∀ x, (m.event.effect m.page).received x = m.page.received x) ∧
      after.countP (·.succeeds s) ≤ 1 ∧
      ∀ r ∈ after, r.event = .poll s →
        (r.succeeds s = false → Untouched c r.page (r.event.effect r.page) ∧
          ∀ x, (r.event.effect r.page).received x = r.page.received x) ∧
        (r.succeeds s = true → ∃ k' response, r.page.component? c = some k' ∧
          r.page.outcomeOf s = some (.ok response) ∧
          (∀ x, (r.event.effect r.page).received x =
            r.page.received x ++ if x ∈ r.page.receivers k' then [⟨payload.encode⟩] else []) ∧
          r.page.Swapped (r.event.effect r.page) c k' response.body) := by
  have hvisited : ∀ n ∈ m :: after, n.page.Visited := fun n hn =>
    visited_of_mem (hrun ▸ List.mem_append_right _ hn)
  have halong := trace_along {} actions
  rw [hrun] at halong
  have hafter := halong.split.2
  obtain ⟨k, f, hk, -, hf, hnew⟩ := handleSubmit_started hstarted
  have hlt := (hvisited m (by simp)).formsInOrder.known c k f hk hf
  have hform : m.page.forms[f]? = some m.page.forms[f] := List.getElem?_eq_getElem hlt
  have heffect : m.event.effect m.page = (m.page.handleSubmit c e).1 := by rw [hm]; rfl
  have hpipe : (m.event.effect m.page).pipelines[s]? =
      some { owner := c, stage := .accepted f (m.page.collectPayload f e.submitter) } := by
    rw [heffect, hnew, hs]
    simp
  have huntouched : Untouched c m.page (m.event.effect m.page) := by
    rw [heffect]
    exact (handleSubmit_handled m.page c e).2.untouched
  -- at every later moment the payload is that of the submit
  have hpayload : ∀ r ∈ after, ∀ payload, r.page.payloadOf s = some payload →
      payload = Payload.collect m.page.forms[f].data.fields e.submitter := by
    intro r hr payload hpayload
    obtain ⟨between, later, rfl⟩ := List.append_of_mem hr
    have hread := hafter.split.1.payloadOf (fun n hn => (hvisited n (by simp [hn])).inStep)
      (List.getElem?_eq_some_iff.mp hpipe).1 hpayload
    rw [Page.payloadOf, hpipe] at hread
    simp only [Option.bind_some, Stage.payload?, collectPayload, entries, hform, Option.map_some,
      Option.getD_some] at hread
    split at hread
    · cases hread
    · rename_i fields hfields
      split at hfields
      · cases hfields
      · cases hfields
        exact (Option.some.inj hread).symm
  refine ⟨k, f, m.page.forms[f], Payload.collect m.page.forms[f].data.fields e.submitter, hk, hf,
    hform, rfl, fun request hrequest => ?_, huntouched, huntouched.received,
    hafter.succeeds_le_one, fun r hr hpolled => ?_⟩
  · -- requests are sent in polls
    obtain ⟨n, hn, hsent⟩ := List.mem_flatMap.mp hrequest
    obtain ⟨hmem, hpolled⟩ := List.mem_filter.mp hn
    rw [Moment.sent_eq (hvisited n (by simp [hmem])), Event.isPoll_iff.mp hpolled] at hsent
    obtain ⟨payload, hcarried, hcarries⟩ := carries_of_mem_toSend hsent
    rw [← hpayload n hmem payload hcarried]
    exact hcarries
  · obtain ⟨pipe, hpipe', hown, -⟩ := (hafter.course_of_mem hr).pipelineKept s _ hpipe
    rw [hpolled]
    refine ⟨fun hfails => ?_, fun hsucceeds => ?_⟩
    · have hplain := poll_plain hpipe' fun n hn => by
        rw [Moment.succeeds_iff.mpr ⟨hpolled, n, hn⟩] at hfails
        cases hfails
      rw [hown] at hplain
      exact ⟨hplain.untouched, hplain.untouched.received⟩
    · obtain ⟨-, n, hok⟩ := Moment.succeeds_iff.mp hsucceeds
      obtain ⟨k', payload, response, hk', hcarried, hanswered, hreceived, hswapped⟩ :=
        poll_notifies hpipe' hok
      rw [hown] at hk' hswapped
      rw [hpayload r hr payload hcarried] at hreceived
      exact ⟨k', response, hk', hanswered, hreceived, hswapped⟩

/-- A submit is accepted with a submitter. Its form is changed before the request is sent and again
before the response is delivered, but the host and its document get the fields as they were. In
another run the response replaces the host, and only the document is notified. -/
theorem one_notification_per_swap_overtaken :
    let run := trace {} [.defer,
      .newForm { action := "/save", method := "post", fields := [("a", "1")] },
      .newHost [] (some 0) none false, .append 0 0, .createWith 0 { swap := .inner }, .attach 0,
      .handleSubmit 0 (some ⟨"go", "yes"⟩), .setField 0 "a" "2", .run, .addField 0 "b" "3",
      .deliver 0 (.ok ⟨.ok, "<p>Saved</p>"⟩), .run]
    let replacing := trace {} [
      .reply (.ok ⟨.ok, "<p>Saved</p><ajax-form><form></form></ajax-form>"⟩),
      .newForm { action := "/save", method := "post", fields := [("a", "1")] },
      .newHost [] (some 0) none false, .append 0 0, .createWith 0 { swap := .outer }, .attach 0,
      .handleSubmit 0 none, .run]
    (∃ before m after e r, run = before ++ m :: after ∧ m.event = .handle 0 e ∧
      (m.page.handleSubmit 0 e).2.2 = .started ∧ r ∈ after ∧ r.succeeds 0 = true ∧
      (∀ request ∈ sentIn 0 after, request.Carries ⟨[("a", "1"), ("go", "yes")]⟩) ∧
      (r.event.effect r.page).received (.host 0) =
        r.page.received (.host 0) ++ [⟨"a=1&go=yes"⟩] ∧
      (r.event.effect r.page).received (.document 0) =
        r.page.received (.document 0) ++ [⟨"a=1&go=yes"⟩]) ∧
    ∃ before m after e r, replacing = before ++ m :: after ∧ m.event = .handle 0 e ∧
      (m.page.handleSubmit 0 e).2.2 = .started ∧ r ∈ after ∧ r.succeeds 0 = true ∧
      (r.event.effect r.page).received (.host 0) = r.page.received (.host 0) ∧
      (r.event.effect r.page).received (.document 0) =
        r.page.received (.document 0) ++ [⟨"a=1"⟩] ∧
      r.page.Grafted (r.event.effect r.page) 0
        "<p>Saved</p><ajax-form><form></form></ajax-form>" := by
  intro run replacing
  -- the form has one field at the time of the submit
  have hread {fields pairs : List (String × String)} {payload : Payload} {form : Form} {p : Page}
      {f : FormId} (hform : p.forms[f]? = some form)
      (hall : (p.forms.all fun form => form.data.fields == fields) = true)
      (hpairs : payload.pairs = form.data.fields ++ pairs) : payload = ⟨fields ++ pairs⟩ := by
    have hfields : form.data.fields = fields := by
      simpa using List.all_eq_true.mp hall form (List.mem_of_getElem? hform)
    rw [hfields] at hpairs
    exact congrArg Payload.mk hpairs
  constructor
  · obtain ⟨p, hp⟩ : ∃ p, p = performAll {} [.defer,
        .newForm { action := "/save", method := "post", fields := [("a", "1")] },
        .newHost [] (some 0) none false, .append 0 0, .createWith 0 { swap := .inner },
        .attach 0] := ⟨_, rfl⟩
    -- the run up to the submit, the submit, and the rest
    have hoffers : p.offers (.handleSubmit 0 (some ⟨"go", "yes"⟩)) = true := by
      rw [hp]
      decide +kernel
    have hsplit := trace_append {} [.defer,
      .newForm { action := "/save", method := "post", fields := [("a", "1")] },
      .newHost [] (some 0) none false, .append 0 0, .createWith 0 { swap := .inner }, .attach 0]
      (.handleSubmit 0 (some ⟨"go", "yes"⟩) :: [.setField 0 "a" "2", .run, .addField 0 "b" "3",
        .deliver 0 (.ok ⟨.ok, "<p>Saved</p>"⟩), .run])
    rw [← hp, trace_handleSubmit hoffers] at hsplit
    obtain ⟨before, after, hrun, hany⟩ : ∃ before after : List Moment,
        run = before ++ ⟨p, .handle 0 { submitter := some ⟨"go", "yes"⟩ }⟩ :: after ∧
        (after.any fun r => r.succeeds 0 && (r.page.component? 0).all fun k =>
          r.page.receivers k == [.host 0, .document 0]) = true :=
      ⟨_, _, hsplit, by rw [hp]; decide +kernel⟩
    obtain ⟨hstarted, hfirst, hfields⟩ :
        (p.handleSubmit 0 { submitter := some ⟨"go", "yes"⟩ }).2.2 = .started ∧
        0 = p.pipelines.length ∧
        (p.forms.all fun form => form.data.fields == [("a", "1")]) = true := by
      rw [hp]
      decide +kernel
    obtain ⟨k, f, form, payload, -, -, hform, hpairs, hcarries, -, -, -, hpolls⟩ :=
      one_notification_per_swap hrun rfl hstarted hfirst
    obtain rfl := hread hform hfields hpairs
    obtain ⟨r, hr, hfound⟩ := List.any_eq_true.mp hany
    obtain ⟨hsucceeds, hreceivers⟩ := Bool.and_eq_true_iff.mp hfound
    obtain ⟨k', response, hk', -, hreceived, -⟩ :=
      (hpolls r hr (Moment.succeeds_iff.mp hsucceeds).1).2 hsucceeds
    rw [hk', Option.all_some, beq_iff_eq] at hreceivers
    have htext : Payload.encode ⟨[("a", "1"), ("go", "yes")]⟩ = "a=1&go=yes" := by
      decide +kernel
    rw [hreceivers] at hreceived
    exact ⟨before, _, after, _, r, hrun, rfl, hstarted, hr, hsucceeds, hcarries,
      by rw [hreceived, ← htext]; rfl, by rw [hreceived, ← htext]; rfl⟩
  · obtain ⟨p, hp⟩ : ∃ p, p = performAll {} [
        .reply (.ok ⟨.ok, "<p>Saved</p><ajax-form><form></form></ajax-form>"⟩),
        .newForm { action := "/save", method := "post", fields := [("a", "1")] },
        .newHost [] (some 0) none false, .append 0 0, .createWith 0 { swap := .outer },
        .attach 0] := ⟨_, rfl⟩
    have hoffers : p.offers (.handleSubmit 0 none) = true := by
      rw [hp]
      decide +kernel
    have hsplit := trace_append {} [
      .reply (.ok ⟨.ok, "<p>Saved</p><ajax-form><form></form></ajax-form>"⟩),
      .newForm { action := "/save", method := "post", fields := [("a", "1")] },
      .newHost [] (some 0) none false, .append 0 0, .createWith 0 { swap := .outer }, .attach 0]
      (.handleSubmit 0 none :: [.run])
    rw [← hp, trace_handleSubmit hoffers] at hsplit
    obtain ⟨before, after, hrun, hany⟩ : ∃ before after : List Moment,
        replacing = before ++ ⟨p, .handle 0 { submitter := none }⟩ :: after ∧
        (after.any fun r => r.succeeds 0 && ((r.page.component? 0).all fun k =>
          r.page.receivers k == [.document 0] && k.host == 0 && k.config.swap == .outer) &&
          (r.page.outcomeOf 0).all fun outcome => outcome.toOption.all fun response =>
            response.body == "<p>Saved</p><ajax-form><form></form></ajax-form>") = true :=
      ⟨_, _, hsplit, by rw [hp]; decide +kernel⟩
    obtain ⟨hstarted, hfirst, hfields⟩ :
        (p.handleSubmit 0 { submitter := none }).2.2 = .started ∧ 0 = p.pipelines.length ∧
        (p.forms.all fun form => form.data.fields == [("a", "1")]) = true := by
      rw [hp]
      decide +kernel
    obtain ⟨k, f, form, payload, -, -, hform, hpairs, -, -, -, -, hpolls⟩ :=
      one_notification_per_swap hrun rfl hstarted hfirst
    obtain rfl := hread hform hfields hpairs
    obtain ⟨r, hr, hfound⟩ := List.any_eq_true.mp hany
    simp only [Bool.and_eq_true] at hfound
    obtain ⟨⟨hsucceeds, hmounted⟩, hanswer⟩ := hfound
    obtain ⟨k', response, hk', houtcome, hreceived, hswapped⟩ :=
      (hpolls r hr (Moment.succeeds_iff.mp hsucceeds).1).2 hsucceeds
    rw [hk'] at hmounted
    rw [houtcome] at hanswer
    simp only [Option.all_some, Bool.and_eq_true, beq_iff_eq, Except.toOption] at hmounted hanswer
    obtain ⟨⟨hreceivers, hhost⟩, hc⟩ := hmounted
    have htext : Payload.encode ⟨[("a", "1")]⟩ = "a=1" := by decide +kernel
    rw [hreceivers] at hreceived
    rw [Swapped, hc, hhost, hanswer] at hswapped
    exact ⟨before, _, after, _, r, hrun, rfl, hstarted, hr, hsucceeds,
      by rw [hreceived]; exact List.append_nil _, by rw [hreceived, ← htext]; rfl, hswapped⟩

end FormSwap.Page
