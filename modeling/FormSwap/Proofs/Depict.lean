import FormSwap.Proofs.Notification
import FormSwap.Proofs.View
import FormSwap.Proofs.Waiting

/-!
# Views of pages

`View.Depicts w n m p` says that the view `w` shows the page `p`, with the first `n` hosts and `m`
components as old. Old hosts and components have their ids in the view; new ones have none, so that
views do not depend on the order of creation. A change of the page is a change of the view, and new
hosts do not show until they are inserted into a document.

Main definitions:

- `View.Depicts w n m p`: the view shows the page, where `n` hosts and `m` components are old
- `Page.view`: the view of a page with all its hosts and components old

Main results:

- `View.Depicts.grown`: new hosts and forms do not show
- `View.Depicts.modifyComponent`, `View.Depicts.modifyHost`, `View.Depicts.modifyDocument`,
  `View.Depicts.setStage`: a change of the page as a change of the view
-/

namespace FormSwap

open FormSwap.Markup

/-- `f.SameData f'`: `f` and `f'` have the same action, method and fields. -/
def Form.SameData (f f' : Form) : Prop :=
  f'.data = f.data

theorem Form.SameData.refl (f : Form) : f.SameData f := rfl

/-- `k.view` is the component `k` as a view shows it. -/
def Component.view (k : Component) : ComponentView where
  host := k.host
  config := k.config
  state := k.state
  attached := k.listener.isSome
  detached := k.detached
  replacements := k.replacements.length

namespace Page

/-! ## The parts of a view -/

/-- `p.formData? f` is the data of the form `f`. -/
def formData? (p : Page) (f : FormId) : Option FormData :=
  (p.forms[f]?).map (·.data)

/-- `p.contents content` is the contents of a host as a view shows them. -/
def contents (p : Page) : Content → Contents
  | .form f => ⟨p.formHtml f, p.formData? f⟩
  | .markup html found => ⟨html, found.bind p.formData?⟩

/-- `p.hostView host` is a host as a view shows it. -/
def hostView (p : Page) (host : Host) : HostView where
  attributes := host.attributes
  contents := p.contents host.content
  parent := host.parent
  dispatched := host.dispatched
  rejecting := host.rejecting

/-- `p.piece n child` is a child of a document as a view shows it, if the first `n` hosts are
old. -/
def piece (p : Page) (n : Nat) : Child → Piece
  | .markup html => .markup html
  | .host h =>
    if h < n then .host h
    else
      match p.hosts[h]? with
      | some host => .fresh host.attributes (p.contents host.content)
      | none => .markup ""

/-- `p.documentView n doc` is a document as a view shows it. -/
def documentView (p : Page) (n : Nat) (doc : Document) : DocumentView where
  pieces := doc.children.map (p.piece n)
  events := doc.events

/-- `p.stageView stage` is a stage as a view shows it. -/
def stageView (p : Page) : Stage → StageView
  | .accepted f payload =>
    .accepted (payload.bind fun payload => (p.requestOf f payload).map fun r => (r, payload))
  | .awaiting call payload => .awaiting call payload
  | .settling sleep => .settling sleep.deadline
  | .finished => .finished

/-- `p.pipelineView pipe` is a pipeline as a view shows it. -/
def pipelineView (p : Page) (pipe : Pipeline) : PipelineView where
  owner := pipe.owner
  stage := p.stageView pipe.stage
  aborted := pipe.aborted

/-- `isOpen`, from a view of the pipeline. -/
theorem isOpen_iff (p : Page) (pipe : Pipeline) :
    pipe.isOpen = true ↔ (p.pipelineView pipe).stage ≠ .finished := by
  unfold Pipeline.isOpen pipelineView
  cases pipe.stage <;> simp [stageView]

end Page

namespace View

/-- `w.Depicts n m p`: the view `w` shows `p`, if the first `n` hosts and `m` components are old. It
may show anything of components that were dropped. -/
structure Depicts (w : View) (n m : Nat) (p : Page) : Prop where
  hosts_le : n ≤ p.hosts.length
  components_le : m ≤ p.components.length
  formsKnown : p.FormsKnown
  childrenKnown : p.ChildrenKnown
  acceptedKnown : p.AcceptedKnown
  document : ∀ d, w.document d = (p.document? d).map (p.documentView n)
  host : ∀ (h : HostId) (host : Host), h < n → p.hosts[h]? = some host →
    w.host h = p.hostView host
  component : ∀ c k, c < m → p.component? c = some k → w.component c = k.view
  pipeline : ∀ s : PipelineId, w.pipeline s = (p.pipelines[s]?).map p.pipelineView
  transport : w.transport = p.transport
  now : w.now = p.clock.now
  faults : w.faults = p.faults

/-- An old host is on the page as the view shows it. -/
theorem Depicts.exists_host {w : View} {n m : Nat} {p : Page} (hw : w.Depicts n m p) {h : HostId}
    (hh : h < n) : ∃ host, p.hosts[h]? = some host ∧ w.host h = p.hostView host := by
  have hhost := List.getElem?_eq_getElem (Nat.lt_of_lt_of_le hh hw.hosts_le)
  exact ⟨_, hhost, hw.host h _ hh hhost⟩

/-- `w.Closed n m`: open pipelines belong to old components on old hosts. -/
def Closed (w : View) (n m : Nat) : Prop :=
  ∀ s pipe, w.pipeline s = some pipe → pipe.aborted = false → pipe.stage ≠ .finished →
    pipe.owner < m ∧ (w.component pipe.owner).host < n

end View

namespace Page

/-! ## Forms with the same data -/

section Forms

variable {p q : Page}

theorem formData?_of_kept (hkept : KeptUpTo Form.SameData p.forms q.forms) {f : FormId}
    (hf : f < p.forms.length) : q.formData? f = p.formData? f := by
  obtain ⟨form, hform, hsame⟩ := hkept f p.forms[f] (List.getElem?_eq_getElem hf)
  rw [formData?, formData?, hform, List.getElem?_eq_getElem hf, Option.map_some, Option.map_some,
    hsame]

theorem formHtml_eq (p : Page) (f : FormId) :
    p.formHtml f = ((p.formData? f).map FormData.html).getD "" := by
  rw [formHtml, formData?, Option.map_map]
  rfl

/-- `contents` depends on the data of the form only. -/
theorem contents_of_kept (hkept : KeptUpTo Form.SameData p.forms q.forms) {content : Content}
    (hknown : ∀ f, content.form? = some f → f < p.forms.length) :
    q.contents content = p.contents content := by
  cases content with
  | form f =>
    have hdata := formData?_of_kept hkept (hknown f rfl)
    simp only [contents, formHtml_eq, hdata]
  | markup html found =>
    cases found with
    | none => rfl
    | some f => simp only [contents, Option.bind_some, formData?_of_kept hkept (hknown f rfl)]

/-- `stageView` depends on the data of the form only. -/
theorem stageView_of_kept (hkept : KeptUpTo Form.SameData p.forms q.forms) {stage : Stage}
    (hknown : ∀ f payload, stage = .accepted f payload → f < p.forms.length) :
    q.stageView stage = p.stageView stage := by
  cases stage with
  | awaiting | settling | finished => rfl
  | accepted f payload =>
    have htarget : KeptUpTo Form.SameTarget p.forms q.forms := by
      intro i form hform
      obtain ⟨form', hform', hsame⟩ := hkept i form hform
      exact ⟨form', hform', congrArg _ hsame, congrArg _ hsame⟩
    simp only [stageView, requestOf_of_kept htarget (hknown f payload rfl)]

end Forms

theorem formsWithout_data (p : Page) (l : Option ListenerRef) :
    KeptUpTo Form.SameData p.forms (p.formsWithout l) := by
  cases l with
  | none => exact .refl Form.SameData.refl _
  | some l => exact .modify Form.SameData.refl _ _ fun _ => rfl

/-! ## Old hosts in a document -/

/-- `piece` is an old host's id exactly for that host. -/
theorem piece_eq_host_iff {p : Page} {n : Nat} {h : HostId} (hh : h < n) {child : Child} :
    p.piece n child = .host h ↔ child = .host h := by
  cases child with
  | markup html => simp [piece]
  | host h' =>
    simp only [piece]
    split
    · simp
    · rename_i hlt
      have hne : h' ≠ h := fun heq => hlt (heq ▸ hh)
      split <;> simp [hne]

theorem map_splice {p : Page} {n : Nat} {h : HostId} (hh : h < n) (new l : List Child) :
    (splice h new l).map (p.piece n) =
      Piece.splice h (new.map (p.piece n)) (l.map (p.piece n)) := by
  induction l with
  | nil => rfl
  | cons child rest ih =>
    simp only [splice, List.map_cons, Piece.splice, piece_eq_host_iff hh]
    split
    · rw [List.map_append]
    · rw [List.map_cons, ih]

/-- `piece` of a host depends on the data of its form and on the host. -/
theorem piece_of_kept {p q : Page} (hforms : KeptUpTo Form.SameData p.forms q.forms)
    (hhosts : KeptUpTo Eq p.hosts q.hosts) (hknown : p.FormsKnown) (n : Nat) {h : HostId}
    (hh : h < p.hosts.length) : q.piece n (.host h) = p.piece n (.host h) := by
  have hp := List.getElem?_eq_getElem hh
  have hcontents := contents_of_kept hforms (hknown _ (List.getElem_mem hh))
  obtain ⟨_, hq, rfl⟩ := hhosts h _ hp
  simp only [piece, hp, hq, hcontents]

/-- `modifyHost` of an old host does not change `piece`. -/
theorem piece_modifyHost {n : Nat} {h : HostId} (hh : h < n) (p : Page) (change : Host → Host) :
    (p.modifyHost h change).piece n = p.piece n := by
  funext child
  cases child with
  | markup html => rfl
  | host h' =>
    simp only [piece]
    split
    · rfl
    · rename_i hlt
      have hne : h ≠ h' := fun heq => hlt (heq ▸ hh)
      simp only [modifyHost, List.getElem?_modify_ne _ _ hne]
      rfl

/-- Only new hosts are mountable. -/
theorem countP_mountable (w : View) (p : Page) (n : Nat) (children : List Child) :
    ((children.filterMap Child.host?).map fun h => p.piece n (.host h)).countP w.mountable =
      (children.map (p.piece n)).countP w.mountable := by
  induction children with
  | nil => rfl
  | cons child rest ih =>
    cases child with
    | markup html =>
      rw [List.filterMap_cons_none rfl, ih, List.map_cons,
        List.countP_cons_of_neg (by simp [piece, View.mountable])]
    | host h =>
      have hhost : Child.host? (.host h) = some h := rfl
      rw [List.filterMap_cons_some hhost, List.map_cons, List.map_cons, List.countP_cons,
        List.countP_cons, ih]

/-! ## New hosts and forms -/

/-- `Grown p q`: `q` differs from `p` in hosts and forms only, and preserves the old hosts and the
data of the old forms. -/
structure Grown (p q : Page) : Prop where
  only : ∃ hosts forms, q = { p with hosts, forms }
  hosts : KeptUpTo Eq p.hosts q.hosts
  forms : KeptUpTo Form.SameData p.forms q.forms
  known : p.FormsKnown → q.FormsKnown

section Grown

variable {p q r : Page}

theorem Grown.refl (p : Page) : Grown p p :=
  ⟨⟨_, _, rfl⟩, .refl (fun _ => rfl) _, .refl Form.SameData.refl _, id⟩

theorem Grown.trans (h : Grown p q) (h' : Grown q r) : Grown p r where
  only := by
    obtain ⟨_, _, rfl⟩ := h.only
    obtain ⟨hosts, forms, rfl⟩ := h'.only
    exact ⟨hosts, forms, rfl⟩
  hosts := h.hosts.trans (fun _ _ _ => Eq.trans) h'.hosts
  forms := h.forms.trans (fun _ _ _ hab hbc => hbc.trans hab) h'.forms
  known hp := h'.known (h.known hp)

theorem Grown.host (h : Grown p q) {i : HostId} {host : Host} (hp : p.hosts[i]? = some host) :
    q.hosts[i]? = some host := by
  obtain ⟨_, hq, rfl⟩ := h.hosts i host hp
  exact hq

theorem addHost_grown (p : Page) (host : Host)
    (hf : ∀ f, host.content.form? = some f → f < p.forms.length) :
    Grown p (p.addHost host).1 where
  only := ⟨_, _, rfl⟩
  hosts := .append (fun _ => rfl) _ _
  forms := .refl Form.SameData.refl _
  known := (TreeKept.addHost p host hf).known

theorem readContent_grown (p : Page) (markup : String) : Grown p (p.readContent markup).1 := by
  have hknown := (p.readContent_kept markup).1.known
  unfold readContent at hknown ⊢
  split
  · exact .refl p
  · rename_i data hdata
    rw [hdata] at hknown
    exact ⟨⟨_, _, rfl⟩, .refl (fun _ => rfl) _, .append Form.SameData.refl _ _, hknown⟩

/-- `contents` after `readContent`. -/
theorem readContent_contents (p : Page) (markup : String) :
    (p.readContent markup).1.contents (p.readContent markup).2 = .read markup := by
  unfold readContent Contents.read
  split
  · rename_i hnone
    simp [contents, hnone]
  · rename_i data hdata
    simp [contents, hdata, addForm, formData?]

/-- `addHost` of a fragment. -/
private theorem addHost_read (d : DocumentId) (p : Page) (tag inner : List Char) :
    Grown p ((p.readContent (String.ofList inner)).1.addHost
      { attributes := readAttributes tag
        content := (p.readContent (String.ofList inner)).2
        parent := some d }).1 :=
  (p.readContent_grown _).trans (addHost_grown _ _ (p.readContent_kept _).2)

theorem addFragments_grown (d : DocumentId) (p : Page) (l : List Fragment) :
    Grown p (addFragments d p l).1 := by
  induction l generalizing p with
  | nil => exact .refl p
  | cons fragment rest ih =>
    cases fragment with
    | text s => exact ih p
    | host tag inner closed => exact (addHost_read d p tag inner).trans (ih _)

/-- `piece` after `addFragments`. -/
theorem addFragments_pieces {n : Nat} (d : DocumentId) (l : List Fragment)
    (hn : n ≤ p.hosts.length) : (addFragments d p l).2.map ((addFragments d p l).1.piece n) =
      l.map Piece.ofFragment := by
  induction l generalizing p with
  | nil => rfl
  | cons fragment rest ih =>
    cases fragment with
    | text s => exact congrArg (_ :: ·) (ih hn)
    | host tag inner closed =>
      have hhosts := (p.readContent_tree (String.ofList inner)).2.1
      have hcontents := p.readContent_contents (String.ofList inner)
      have hform := (p.readContent_kept (String.ofList inner)).2
      simp only [addFragments, List.map_cons, Piece.ofFragment]
      generalize p.readContent (String.ofList inner) = read at hhosts hcontents hform ⊢
      -- the new host is last, and later fragments do not change it
      have hlast : (read.1.addHost
          { attributes := readAttributes tag, content := read.2, parent := some d }).1.hosts[
            p.hosts.length]? =
          some { attributes := readAttributes tag, content := read.2, parent := some d } := by
        simp [addHost, hhosts]
      have hgrown := addFragments_grown d (read.1.addHost
        { attributes := readAttributes tag, content := read.2, parent := some d }).1 rest
      have hsame : _ = read.1.contents read.2 := contents_of_kept hgrown.forms hform
      refine congr (congrArg List.cons ?_) (ih ?_)
      · have hnew : ¬ read.1.hosts.length < n := by
          rw [hhosts]
          exact Nat.not_lt.mpr hn
        have hplace : (read.1.addHost
            { attributes := readAttributes tag, content := read.2, parent := some d }).2 =
            p.hosts.length := by
          simp [addHost, hhosts]
        rw [hhosts] at hnew
        simp only [piece, hplace, hnew, if_false, hgrown.host hlast, hsame]
        exact congrArg _ hcontents
      · simp only [addHost, List.length_append, hhosts]
        omega

end Grown

/-! ## Mounting -/

section Mount

variable {p : Page} {h : HostId} {host : Host}

/-- The page after `setOuterHtml`. -/
theorem setOuterHtml_eq {markup : String} {r : Replacement}
    (hr : p.setOuterHtml h markup = .ok r) (hhost : p.hosts[h]? = some host) :
    host.parent = some r.parent ∧
    r.inserted =
      (addFragments r.parent p (fragments markup.toList)).2.filterMap Child.host? ∧
    r.page = ((addFragments r.parent p (fragments markup.toList)).1.modifyDocument r.parent
      fun doc => { doc with
        children := splice h (addFragments r.parent p (fragments markup.toList)).2
          doc.children }).modifyHost h fun host => { host with parent := none } := by
  unfold setOuterHtml at hr
  rw [hhost, Option.bind_some] at hr
  split at hr
  · cases hr
  split at hr
  · cases hr
  rename_i hparent
  split at hr
  · cases hr
  split at hr
  · cases hr
    exact ⟨hparent, rfl, rfl⟩
  · cases hr

/-- `contents` has a form exactly if the host has one. -/
theorem isSome_contents_form (hknown : ∀ f, host.content.form? = some f → f < p.forms.length) :
    (p.contents host.content).form.isSome = host.content.form?.isSome := by
  have hdata (f : FormId) (hf : f < p.forms.length) : (p.formData? f).isSome = true := by
    simp [formData?, hf]
  cases hcontent : host.content with
  | form f =>
    rw [hcontent] at hknown
    simpa [contents, Content.form?] using hdata f (hknown f rfl)
  | markup html found =>
    rw [hcontent] at hknown
    cases found with
    | none => rfl
    | some f => simpa [contents, Content.form?] using hdata f (hknown f rfl)

theorem listen_isOk (p : Page) (c : ComponentId) (f : FormId) :
    (p.listen c f).isOk = !p.fails .addSubmitListener := by
  unfold listen addListener
  cases p.fails .addSubmitListener <;> rfl

/-- `attach` of a new component succeeds exactly if the host has a form and listeners can be
added. -/
theorem attach_createWith_isOk (hhost : p.hosts[h]? = some host) (config : Config) :
    ((p.createWith h config).1.attach p.components.length).isOk =
      (host.content.form?.isSome && !p.fails .addSubmitListener) := by
  have hk : (p.createWith h config).1.component? p.components.length =
      some { host := h, config } := by
    rw [component?_of_append (p := p) rfl, if_pos rfl]
  have hform : (p.createWith h config).1.queryForm h = host.content.form? := by
    simp [queryForm, createWith, hhost]
  unfold attach
  simp only [hk, hform, Bool.false_eq_true, if_false, Option.isSome_none]
  cases host.content.form? with
  | none => rfl
  | some f =>
    have hlisten := listen_isOk (p.createWith h config).1 p.components.length f
    dsimp only
    split <;> rename_i hresult <;> rw [hresult] at hlisten <;> exact hlisten

/-- `mount` succeeds exactly if the host has a valid configuration and a form, and listeners can be
added. -/
theorem mount_isOk (hhost : p.hosts[h]? = some host) : (p.mount h).2.isOk =
    ((Config.ofAttributes (lookup host.attributes)).isOk && host.content.form?.isSome &&
      !p.fails .addSubmitListener) := by
  have hget : p.getAttribute h = lookup host.attributes := by
    funext name
    simp [getAttribute, hhost]
  unfold mount
  rw [hget]
  cases Config.ofAttributes (lookup host.attributes) with
  | error e => rfl
  | ok r =>
    -- the component is created; it remains to attach it
    obtain ⟨notices, hnote⟩ := noteResolved_eq p r
    have hattach := attach_createWith_isOk (p := { p with notices }) hhost r.config
    simp only [hnote]
    dsimp only [createWith] at hattach ⊢
    split <;> rename_i hresult <;> rw [hresult] at hattach <;> exact hattach

end Mount

end Page

namespace View.Depicts

open Page

section Same

variable {w : View} {n m : Nat} {p q : Page}

/-- `Depicts` is preserved if new hosts, forms and components are added, listeners change and
components are dropped. -/
theorem of_grown (hw : w.Depicts n m p) (hforms : KeptUpTo Form.SameData p.forms q.forms)
    (hhosts : KeptUpTo Eq p.hosts q.hosts) (hknown : q.FormsKnown)
    (hdocuments : q.documents = p.documents)
    (hcomponents : ∀ c k, c < m → q.component? c = some k → p.component? c = some k)
    (hle : p.components.length ≤ q.components.length)
    (hpipelines : q.pipelines = p.pipelines) (htransport : q.transport = p.transport)
    (hnow : q.clock.now = p.clock.now) (hfaults : q.faults = p.faults) : w.Depicts n m q := by
  -- the view refers to hosts and forms that existed before
  have hhost {h : HostId} {host : Host} (hp : p.hosts[h]? = some host) :
      q.hosts[h]? = some host := by
    obtain ⟨host', hq, rfl⟩ := hhosts h host hp
    exact hq
  have hcontents {h : HostId} {host : Host} (hp : p.hosts[h]? = some host) :
      q.contents host.content = p.contents host.content :=
    contents_of_kept hforms (hw.formsKnown host (List.mem_of_getElem? hp))
  have hpiece (d : DocumentId) (doc : Document) (hdoc : p.document? d = some doc) (child : Child)
      (hchild : child ∈ doc.children) : q.piece n child = p.piece n child := by
    cases child with
    | markup html => rfl
    | host h =>
      exact piece_of_kept hforms hhosts hw.formsKnown n (hw.childrenKnown d doc hdoc h hchild)
  refine ⟨Nat.le_trans hw.hosts_le hhosts.length_le, Nat.le_trans hw.components_le hle, hknown,
    hw.childrenKnown.of_documents hdocuments hhosts.length_le, ?_, fun d => ?_,
    fun h host hh hq => ?_, fun c k hc hk => hw.component c k hc (hcomponents c k hc hk),
    fun s => ?_, by rw [htransport, hw.transport], by rw [hnow, hw.now], by rw [hfaults, hw.faults]⟩
  · intro s pipe f payload hpipe hstage
    rw [hpipelines] at hpipe
    exact Nat.lt_of_lt_of_le (hw.acceptedKnown s pipe f payload hpipe hstage) hforms.length_le
  · have hsame : q.document? d = p.document? d := by simp only [document?, hdocuments]
    rw [hw.document, hsame]
    cases hdoc : p.document? d with
    | none => rfl
    | some doc =>
      have hmap : doc.children.map (q.piece n) = doc.children.map (p.piece n) :=
        List.map_congr_left (hpiece d doc hdoc)
      simp only [Option.map_some, documentView, hmap]
  · obtain ⟨_, hp, hview⟩ := hw.exists_host hh
    rw [hhost hp] at hq
    cases hq
    rw [hview, hostView, hostView, hcontents hp]
  · rw [hw.pipeline, hpipelines]
    cases hpipe : p.pipelines[s]? with
    | none => rfl
    | some pipe =>
      have hstage : q.stageView pipe.stage = p.stageView pipe.stage :=
        stageView_of_kept hforms (fun f payload => hw.acceptedKnown s pipe f payload hpipe)
      simp only [Option.map_some, pipelineView, hstage]

/-- `Depicts` is preserved by further hosts and forms. -/
theorem grown (hw : w.Depicts n m p) (hq : Grown p q) : w.Depicts n m q := by
  have hknown := hq.known hw.formsKnown
  obtain ⟨hosts, forms, rfl⟩ := hq.only
  exact hw.of_grown hq.forms hq.hosts hknown rfl (fun _ _ _ hk => hk) (Nat.le_refl _) rfl rfl rfl
    rfl

/-- `Depicts` does not depend on the waiters, the notices and the queues. -/
theorem aside (hw : w.Depicts n m p) (clock : ManualClock) (hnow : clock.now = p.clock.now)
    (notices : List Notice) (woken spawned : List PipelineId) :
    w.Depicts n m { p with clock, notices, woken, spawned } :=
  hw.of_grown (.refl Form.SameData.refl _) (.refl (fun _ => rfl) _) hw.formsKnown rfl
    (fun _ _ _ hk => hk) (Nat.le_refl _) rfl rfl hnow rfl

theorem note (hw : w.Depicts n m p) (x : Notice) : w.Depicts n m (p.note x) :=
  hw.aside p.clock rfl _ _ _

/-- `Depicts` does not depend on the listeners. -/
theorem forms (hw : w.Depicts n m p) {forms : List Form}
    (hkept : KeptUpTo Form.SameData p.forms forms) : w.Depicts n m { p with forms } :=
  hw.of_grown hkept (.refl (fun _ => rfl) _)
    (fun host hhost f hf => Nat.lt_of_lt_of_le (hw.formsKnown host hhost f hf) hkept.length_le)
    rfl (fun _ _ _ hk => hk) (Nat.le_refl _) rfl rfl rfl rfl

end Same

/-! ## Changes that a view shows -/

section Changes

variable {w : View} {n m : Nat} {p : Page}

theorem modifyComponent (hw : w.Depicts n m p) (c : ComponentId)
    {change : Component → Component} {v : ComponentView}
    (hv : ∀ k, p.component? c = some k → (change k).view = v) :
    ({ w with component := Function.update w.component c v } : View).Depicts n m
      (p.modifyComponent c change) where
  hosts_le := hw.hosts_le
  components_le := by simpa [Page.modifyComponent] using hw.components_le
  formsKnown := hw.formsKnown
  childrenKnown := hw.childrenKnown
  acceptedKnown := hw.acceptedKnown
  document := hw.document
  host := hw.host
  component d k' hd hk' := by
    rw [component?_of_modify (p := p) rfl] at hk'
    split at hk'
    · rename_i hcd
      subst hcd
      obtain ⟨k, hk, rfl⟩ := Option.map_eq_some_iff.mp hk'
      exact (Function.update_self _ _ _).trans (hv k hk).symm
    · rename_i hcd
      exact (Function.update_of_ne (Ne.symm hcd) _ _).trans (hw.component d k' hd hk')
  pipeline := hw.pipeline
  transport := hw.transport
  now := hw.now
  faults := hw.faults

theorem modifyHost (hw : w.Depicts n m p) {h : HostId} (hh : h < n) {change : Host → Host}
    {v : HostView} (hv : ∀ host, p.hosts[h]? = some host → p.hostView (change host) = v)
    (hform : ∀ host f, p.hosts[h]? = some host → (change host).content.form? = some f →
      f < p.forms.length) :
    ({ w with host := Function.update w.host h v } : View).Depicts n m
      (p.modifyHost h change) where
  hosts_le := by simpa [Page.modifyHost] using hw.hosts_le
  components_le := hw.components_le
  formsKnown := by
    intro host' hhost' f hf
    obtain ⟨i, hi⟩ := List.mem_iff_getElem?.mp hhost'
    simp only [Page.modifyHost, List.getElem?_modify, Option.map_eq_map, Option.map_eq_some_iff]
      at hi
    obtain ⟨host, hhost, rfl⟩ := hi
    split at hf
    · rename_i hhi
      subst hhi
      exact hform host f hhost hf
    · exact hw.formsKnown host (List.mem_of_getElem? hhost) f hf
  childrenKnown := hw.childrenKnown.modifyHost h change
  acceptedKnown := hw.acceptedKnown
  document d := by
    have hview : (p.modifyHost h change).documentView n = p.documentView n := by
      funext doc
      simp only [documentView, piece_modifyHost hh]
    rw [hview]
    exact hw.document d
  host h' host' hh' hhost' := by
    by_cases hne : h = h'
    · subst hne
      simp only [Page.modifyHost, List.getElem?_modify_eq, Option.map_eq_map,
        Option.map_eq_some_iff] at hhost'
      obtain ⟨host, hhost, rfl⟩ := hhost'
      exact (Function.update_self _ _ _).trans (hv host hhost).symm
    · simp only [Page.modifyHost, List.getElem?_modify_ne _ _ hne] at hhost'
      exact (Function.update_of_ne (Ne.symm hne) _ _).trans (hw.host h' host' hh' hhost')
  component := hw.component
  pipeline := hw.pipeline
  transport := hw.transport
  now := hw.now
  faults := hw.faults

theorem modifyDocument (hw : w.Depicts n m p) (d : DocumentId) {change : Document → Document}
    {f : DocumentView → DocumentView}
    (hf : ∀ doc, p.documentView n (change doc) = f (p.documentView n doc))
    (hknown : (p.modifyDocument d change).ChildrenKnown) :
    ({ w with document := fun d' => (w.document d').map fun v => if d = d' then f v else v }
      : View).Depicts n m (p.modifyDocument d change) where
  hosts_le := hw.hosts_le
  components_le := hw.components_le
  formsKnown := hw.formsKnown
  childrenKnown := hknown
  acceptedKnown := hw.acceptedKnown
  document d' := by
    have hview : (p.modifyDocument d change).documentView n = p.documentView n := rfl
    dsimp only
    rw [document?_modifyDocument, hw.document, hview]
    split
    · rw [Option.map_map, Option.map_map]
      congr 1
      funext doc
      exact (hf doc).symm
    · rw [Option.map_map]
      rfl
  host := hw.host
  component := hw.component
  pipeline := hw.pipeline
  transport := hw.transport
  now := hw.now
  faults := hw.faults

theorem setStage (hw : w.Depicts n m p) {s : PipelineId} {pipe : PipelineView}
    (hpipe : w.pipeline s = some pipe) (stage : Stage) (hstage : 0 < stage.rank) :
    ({ w with
      pipeline := Function.update w.pipeline s
        (some { pipe with stage := p.stageView stage }) } : View).Depicts n m
      (p.setStage s stage) where
  hosts_le := hw.hosts_le
  components_le := hw.components_le
  formsKnown := hw.formsKnown
  childrenKnown := hw.childrenKnown
  acceptedKnown := by
    intro t pipe' f payload hpipe' haccepted
    simp only [Page.setStage, modifyPipeline, List.getElem?_modify, Option.map_eq_map,
      Option.map_eq_some_iff] at hpipe'
    obtain ⟨old, hold, rfl⟩ := hpipe'
    split at haccepted
    · -- no pipeline goes back to its first stage
      have haccepted : stage = .accepted f payload := haccepted
      rw [haccepted] at hstage
      cases hstage
    · exact hw.acceptedKnown t old f payload hold haccepted
  document := hw.document
  host := hw.host
  component := hw.component
  pipeline t := by
    by_cases hst : s = t
    · subst hst
      rw [hw.pipeline] at hpipe
      obtain ⟨old, hold, rfl⟩ := Option.map_eq_some_iff.mp hpipe
      simp only [Page.setStage, modifyPipeline, List.getElem?_modify_eq, hold,
        Function.update_self]
      rfl
    · simp only [Page.setStage, modifyPipeline, List.getElem?_modify_ne _ _ hst,
        Function.update_of_ne (Ne.symm hst)]
      exact hw.pipeline t
  transport := hw.transport
  now := hw.now
  faults := hw.faults

theorem ask (hw : w.Depicts n m p) (transport : MockTransport) :
    ({ w with transport } : View).Depicts n m { p with transport } :=
  ⟨hw.hosts_le, hw.components_le, hw.formsKnown, hw.childrenKnown, hw.acceptedKnown, hw.document,
    hw.host, hw.component, hw.pipeline, rfl, hw.now, hw.faults⟩

end Changes

end View.Depicts

namespace Page

/-! ## The view of a page -/

/-- `p.view` is the view of `p` with all its hosts and components old. -/
def view (p : Page) : View where
  document d := (p.document? d).map (p.documentView p.hosts.length)
  host h := ((p.hosts[h]?).map p.hostView).getD {}
  component c := ((p.component? c).map Component.view).getD {}
  pipeline s := (p.pipelines[s]?).map p.pipelineView
  transport := p.transport
  now := p.clock.now
  faults := p.faults

variable {p : Page}

theorem Visited.depicts (hp : p.Visited) :
    p.view.Depicts p.hosts.length p.components.length p where
  hosts_le := Nat.le_refl _
  components_le := Nat.le_refl _
  formsKnown := hp.formsInOrder.hosts
  childrenKnown := hp.childrenKnown
  acceptedKnown := hp.acceptedKnown
  document _ := rfl
  host h host _ hhost := by simp [view, hhost]
  component c k _ hk := by simp [view, hk]
  pipeline _ := rfl
  transport := rfl
  now := rfl
  faults := rfl

theorem Visited.closed (hp : p.Visited) : p.view.Closed p.hosts.length p.components.length := by
  intro s pipe' hpipe' ha hstage
  obtain ⟨pipe, hpipe, rfl⟩ := Option.map_eq_some_iff.mp hpipe'
  have hopen : pipe.isOpen = true := (p.isOpen_iff pipe).mpr hstage
  obtain ⟨k, hk⟩ := Option.isSome_iff_exists.mp (hp.inStep.owned s pipe hpipe hopen)
  refine ⟨lt_of_component? hk, ?_⟩
  show (((p.component? pipe.owner).map Component.view).getD {}).host < p.hosts.length
  rw [hk]
  exact hp.hostsKnown _ k hk

end Page

end FormSwap
