import FormSwap.Proofs.Links
import FormSwap.Proofs.Notification

/-!
# Connected hosts are listed

After any actions of the user and any swaps, a host that is connected to a document which was not
dropped is among its children. So `setOuterHtml` fails only if the host is in no such document. If
hosts are never appended to a second document and never removed from one that they are not in, the
converse holds as well: a document lists exactly the hosts connected to it, each of them once.

Main results:

- `poll_relinked`, `act_relinked`: the effect of polls and actions on the links of a page
- `Reachable.sound`: a connected host is listed by its document
- `documents_list_their_hosts`: both directions, and when replacing a host fails
-/

namespace FormSwap

open FormSwap.Markup

namespace Page

/-! ## Operations that preserve the links -/

section Same

variable {p q : Page} {kind : Kind} {S : Kind → Prop}

theorem links_of_tree (hd : q.documents = p.documents) (hh : q.hosts = p.hosts) :
    q.links = p.links := by
  rw [links, links, hd, hh]

/-- `modifyHost` preserves the links if it preserves the parent. -/
theorem links_modifyHost (p : Page) (h : HostId) {change : Host → Host}
    (hchange : ∀ host, (change host).parent = host.parent) :
    (p.modifyHost h change).links = p.links :=
  congrArg (Links.mk _) (map_modify_of_eq p.hosts h hchange)

/-- `modifyDocument` edits the links if it edits the children. -/
theorem links_edit (p : Page) (d : DocumentId) {change : Document → Document}
    (edit : List Child → List Child) (hchange : ∀ doc, (change doc).children = edit doc.children) :
    (p.modifyDocument d change).links = p.links.edit d edit p.links.parents := by
  refine congrArg (Links.mk · _) (List.ext_getElem? fun i => ?_)
  simp only [links, modifyDocument, List.getElem?_map, List.getElem?_modify]
  cases p.documents[i]? with
  | none => rfl
  | some slot =>
    split
    · cases slot <;> simp [hchange]
    · rfl

/-- `modifyDocument` preserves the links if it preserves the children. -/
theorem links_modifyDocument (p : Page) (d : DocumentId) {change : Document → Document}
    (hchange : ∀ doc, (change doc).children = doc.children) :
    (p.modifyDocument d change).links = p.links := by
  rw [links_edit p d id hchange, Links.edit, Option.map_id, List.modify_id]

/-- Only `tree` moves change the links. -/
theorem Move.links_eq (move : Move kind p q) (hkind : ∀ watch, kind ≠ .tree watch) :
    q.links = p.links := by
  cases move with
  | tree e => exact absurd rfl (hkind _)
  | mark => exact links_modifyHost p _ fun _ => rfl
  | disconnect =>
    refine congrArg (Links.mk _) ?_
    dsimp only
    split
    · exact map_hostsUnmarking p _ fun _ => rfl
    · rfl
  | start => exact congrArg (Links.mk _) (map_hostsMarking p _ fun _ => rfl)
  | refuse =>
    exact congrArg (Links.mk _)
      ((map_hostsUnmarking _ _ fun _ => rfl).trans (map_hostsMarking p _ fun _ => rfl))
  | finish => exact congrArg (Links.mk _) (map_hostsUnmarking p _ fun _ => rfl)
  | _ => rfl

theorem Course.links_eq (h : Course S p q) (hS : ∀ watch, ¬ S (.tree watch)) :
    q.links = p.links :=
  h.keeps (I := fun r => r.links = p.links)
    (fun _ _ _ hkind move ih =>
      (move.links_eq fun watch heq => hS watch (heq ▸ hkind)).trans ih) rfl

theorem leaveSubmitting_links (p : Page) (c : ComponentId) :
    (p.leaveSubmitting c).links = p.links := by
  unfold leaveSubmitting
  split
  · rfl
  · dsimp only
    unfold removeAttribute
    split
    · rename_i hq
      split at hq
      · cases hq
      · cases hq
        exact links_modifyHost _ _ fun _ => rfl
    · rfl

theorem settle_links (p : Page) (s : PipelineId) (c : ComponentId) (sleep : Sleep) :
    (p.settle s c sleep).links = p.links := by
  unfold settle
  split
  · exact leaveSubmitting_links { p with clock := _ } c
  · rfl

theorem setInnerHtml_links {h : HostId} {markup : String} (hq : p.setInnerHtml h markup = .ok q) :
    q.links = p.links := by
  obtain ⟨hdocuments, hhosts, -⟩ := p.readContent_tree markup
  unfold setInnerHtml at hq
  split at hq
  · cases hq
  · cases hq
    refine Eq.trans (links_modifyHost _ h ?_) (links_of_tree hdocuments hhosts)
    exact fun _ => rfl

theorem dispatchHost_links {h : HostId} {n : Notification} (hq : p.dispatchHost h n = .ok q) :
    q.links = p.links := by
  unfold dispatchHost at hq
  split at hq
  · cases hq
    rfl
  split at hq
  · cases hq
  split at hq
  · cases hq
    refine Eq.trans (links_modifyDocument _ _ ?_) (links_modifyHost p h ?_)
    · exact fun _ => rfl
    · exact fun _ => rfl
  · cases hq
    exact links_modifyHost p h fun _ => rfl

end Same

/-! ## Operations that edit the links -/

section Edits

variable {p : Page} {d : DocumentId} {h : HostId} {markup : String}

theorem links_childrenOf (p : Page) (d : DocumentId) :
    p.links.childrenOf d = (p.document? d).map (·.children) := by
  unfold Links.childrenOf links document?
  rw [List.getElem?_map]
  cases p.documents[d]? with
  | none => rfl
  | some slot => rfl

theorem links_parentOf (p : Page) (h : HostId) :
    p.links.parentOf h = (p.hosts[h]?).bind (·.parent) := by
  unfold Links.parentOf links
  rw [List.getElem?_map]
  cases p.hosts[h]? with
  | none => rfl
  | some host => rfl

theorem links_countIn (p : Page) (d : DocumentId) (h : HostId) :
    p.links.countIn d h = ((p.document? d).map fun doc => doc.children.count (.host h)).getD 0 := by
  unfold Links.countIn
  rw [links_childrenOf, Option.map_map]
  rfl

theorem links_lives (p : Page) (d : DocumentId) :
    p.links.lives d = (p.document? d).isSome := by
  unfold Links.lives
  rw [links_childrenOf, Option.isSome_map]

theorem map_parent_set (hosts : List Host) (h : HostId) (parent : Option DocumentId) :
    (hosts.modify h fun host => { host with parent }).map (·.parent) =
      (hosts.map (·.parent)).set h parent := by
  apply List.ext_getElem?
  intro i
  rw [List.getElem?_map, List.getElem?_modify, List.getElem?_set, List.length_map,
    List.getElem?_map]
  by_cases hi : h = i
  · subst hi
    rw [if_pos rfl]
    by_cases hlt : h < hosts.length
    · rw [if_pos hlt, List.getElem?_eq_getElem hlt]
      simp
    · rw [if_neg hlt, List.getElem?_eq_none (Nat.le_of_not_lt hlt)]
      rfl
  · simp [hi]

/-- `addFragments` adds hosts connected to its document. -/
theorem addFragments_links (d : DocumentId) (p : Page) (l : List Fragment) :
    ∃ n, (addFragments d p l).1.links =
        { p.links with parents := p.links.parents ++ List.replicate n (some d) } ∧
      p.links.Fresh (addFragments d p l).2 n := by
  induction l generalizing p with
  | nil => exact ⟨0, by simp [addFragments], rfl⟩
  | cons fragment rest ih =>
    cases fragment with
    | text s =>
      obtain ⟨n, hlinks, hfresh⟩ := ih p
      exact ⟨n, hlinks, hfresh⟩
    | host tag inner closed =>
      obtain ⟨hdocuments, hhosts, -⟩ := p.readContent_tree (String.ofList inner)
      simp only [addFragments]
      generalize p.readContent (String.ofList inner) = read at hdocuments hhosts ⊢
      obtain ⟨n, hlinks, hfresh⟩ := ih (read.1.addHost
        { attributes := readAttributes tag, content := read.2, parent := some d }).1
      -- the host itself comes first
      have hadd : (read.1.addHost
          { attributes := readAttributes tag, content := read.2, parent := some d }).1.links =
          { p.links with parents := p.links.parents ++ [some d] } := by
        simp [links, addHost, hdocuments, hhosts]
      rw [hadd] at hlinks hfresh
      refine ⟨n + 1, ?_, ?_⟩
      · rw [hlinks, List.append_assoc, List.replicate_succ, List.singleton_append]
      · have hplace : (read.1.addHost
            { attributes := readAttributes tag, content := read.2, parent := some d }).2 =
            p.links.parents.length := by
          simp [links, addHost, hhosts]
        rw [Links.Fresh, List.length_append, List.length_singleton] at hfresh
        rw [Links.Fresh, List.range'_succ, ← hfresh, ← hplace]
        rfl

theorem append_links (p : Page) (d : DocumentId) (h : HostId) :
    (p.append d h).links = p.links.append d h := by
  refine (links_edit _ d (· ++ [.host h]) fun _ => rfl).trans ?_
  exact congrArg (Links.mk _) (map_parent_set p.hosts h (some d))

/-- Disconnecting a host. -/
theorem disconnect_links (p : Page) (h : HostId) :
    (p.modifyHost h fun host => { host with parent := none }).links =
      { p.links with parents := p.links.parents.set h none } :=
  congrArg (Links.mk _) (map_parent_set p.hosts h none)

theorem remove_links (p : Page) (d : DocumentId) (h : HostId) :
    (p.remove d h).links = p.links.remove d h := by
  refine (disconnect_links _ h).trans ?_
  rw [links_edit p d (fun cs => cs.filter fun child => child != .host h) fun _ => rfl]
  rfl

theorem appendMarkup_step (hd : (p.document? d).isSome = true) :
    Links.Step p.links (p.appendMarkup d markup).links := by
  obtain ⟨n, hlinks, hfresh⟩ := addFragments_links d p (fragments markup.toList)
  have hpage : (p.appendMarkup d markup).links = _ :=
    links_edit _ d (· ++ (addFragments d p (fragments markup.toList)).2) fun _ => rfl
  rw [hpage, hlinks]
  exact .graft (by rwa [links_lives]) hfresh

theorem setOuterHtml_step {r : Replacement} (hr : p.setOuterHtml h markup = .ok r) :
    Links.Step p.links r.page.links := by
  unfold setOuterHtml at hr
  split at hr
  · cases hr
  split at hr
  · cases hr
  rename_i d hd
  split at hr
  · cases hr
  rename_i doc hdoc
  split at hr
  · rename_i hmem
    cases hr
    obtain ⟨n, hlinks, hfresh⟩ := addFragments_links d p (fragments markup.toList)
    have hin : 0 < p.links.countIn d h := by
      rw [links_countIn, hdoc]
      exact List.count_pos_iff.mpr (List.contains_iff_mem.mp hmem)
    dsimp only
    rw [disconnect_links, links_edit _ d
      (splice h (addFragments d p (fragments markup.toList)).2) fun _ => rfl, hlinks]
    exact .replace ((links_parentOf p h).trans hd) hin hfresh
  · cases hr

end Edits

/-! ## Polls and actions -/

/-- `p.Relinked q`: the links of `q` are those of `p` after edits that need no care. -/
def Relinked (p q : Page) : Prop :=
  Relation.ReflTransGen Links.Step p.links q.links

section Relinked

variable {p q r : Page} {c : ComponentId} {s : PipelineId}

theorem Relinked.of_eq (h : q.links = p.links) : p.Relinked q := by
  rw [Relinked, h]

theorem Relinked.of_step (h : Links.Step p.links q.links) : p.Relinked q :=
  .single h

theorem Relinked.trans (h : p.Relinked q) (h' : q.Relinked r) : p.Relinked r :=
  Relation.ReflTransGen.trans h h'

/-- `swapOuter` replaces a host and mounts components. -/
theorem swapOuter_relinked {h : HostId} {body : String} {n : Notification}
    (hq : p.swapOuter c h body n = .ok q) : p.Relinked q := by
  unfold swapOuter at hq
  split at hq
  · cases hq
  rename_i r hr
  cases hq
  refine (Relinked.of_step (setOuterHtml_step hr)).trans (.of_eq ?_)
  obtain ⟨hdocuments, hhosts⟩ := releaseForm_tree
    (r.page.modifyComponent c fun comp => { comp with detached := true }) c
  obtain ⟨hdocuments', hhosts'⟩ := adopt_tree c
    ((r.page.modifyComponent c fun comp => { comp with detached := true }).releaseForm c)
    r.inserted
  refine (links_modifyDocument _ r.parent ?_).trans ?_
  · exact fun _ => rfl
  · exact links_of_tree (hdocuments'.trans hdocuments) (hhosts'.trans hhosts)

/-- `swapInner` preserves the links. -/
theorem swapInner_links {h : HostId} {body : String} {n : Notification}
    (hq : p.swapInner c h body n = .ok q) : q.links = p.links := by
  unfold swapInner at hq
  split at hq
  · cases hq
  rename_i r hr
  obtain ⟨hdocuments, hhosts⟩ := rebind_tree r c h
  have hrebind : (r.rebind c h).links = p.links :=
    (links_of_tree hdocuments hhosts).trans (setInnerHtml_links hr)
  dsimp only at hq
  split at hq
  · rename_i hdispatch
    cases hq
    exact (dispatchHost_links hdispatch).trans hrebind
  · cases hq
    exact hrebind

theorem applyResponse_relinked {body : String} {n : Notification}
    (hq : p.applyResponse c body n = .ok q) : p.Relinked q := by
  unfold applyResponse at hq
  split at hq
  · cases hq
  rename_i k hk
  split at hq
  · dsimp only at hq
    cases hswap : k.config.swap with
    | outer =>
      rw [hswap] at hq
      dsimp only at hq
      split at hq
      · rename_i houter
        cases hq
        exact swapOuter_relinked houter
      · cases hq
    | inner =>
      rw [hswap] at hq
      dsimp only at hq
      split at hq
      · rename_i hinner
        cases hq
        exact .of_eq (swapInner_links hinner)
      · cases hq
  · cases hq

theorem conclude_links (p : Page) (s : PipelineId) (c : ComponentId)
    (result : Except SubmitError Nat) : (p.conclude s c result).links = p.links :=
  settle_links (p.note (resultNotice result)) s c _

theorem receive_relinked (p : Page) (s : PipelineId) (c : ComponentId) (payload : Payload)
    (outcome : Outcome) : p.Relinked ((p.receive c payload outcome).resume s c) := by
  unfold receive
  split
  · exact .of_eq (conclude_links p s c _)
  split
  · exact .of_eq (conclude_links p s c _)
  split
  · exact .of_eq (conclude_links p s c _)
  · rename_i hq
    exact (applyResponse_relinked hq).trans (.of_eq (conclude_links _ s c _))

theorem pollCall_relinked (p : Page) (s : PipelineId) (c : ComponentId) (call : Call)
    (payload : Payload) : p.Relinked ((p.pollCall c call payload).resume s c) := by
  unfold pollCall
  split
  · exact .of_eq rfl
  · rename_i transport outcome _
    exact Relinked.trans (.of_eq rfl) (receive_relinked { p with transport } s c payload outcome)

theorem poll_relinked (p : Page) (s : PipelineId) : p.Relinked (p.poll s) := by
  unfold poll
  split
  · exact .of_eq rfl
  rename_i pipe hpipe
  split
  · unfold dropAborted
    cases pipe.stage <;> exact .of_eq rfl
  split
  · unfold firstExchange
    split
    · exact .of_eq (conclude_links p s pipe.owner _)
    split
    · exact .of_eq (conclude_links p s pipe.owner _)
    · exact pollCall_relinked p s pipe.owner _ _
  · exact pollCall_relinked p s pipe.owner _ _
  · exact .of_eq (settle_links p s pipe.owner _)
  · exact .of_eq rfl

theorem polls_relinked (l : List PipelineId) (p : Page) : p.Relinked (l.foldl poll p) := by
  induction l generalizing p with
  | nil => exact .of_eq rfl
  | cons s rest ih => exact (poll_relinked p s).trans (ih _)

theorem sweep_links (p : Page) : p.sweep.links = p.links :=
  (sweep_course p).links_eq fun _ => id

theorem newHost_step (p : Page) (attributes : List (String × String)) (form : Option FormId)
    (markup : Option String) (rejecting : Bool) :
    Links.Step p.links (p.newHost attributes form markup rejecting).1.links := by
  have hadd (q : Page) (host : Host) (hq : q.links = p.links) (hparent : host.parent = none) :
      Links.Step p.links (q.addHost host).1.links := by
    have hlinks : (q.addHost host).1.links =
        { q.links with parents := q.links.parents ++ [none] } := by
      simp [links, addHost, hparent]
    rw [hlinks, hq]
    exact .newHost p.links
  cases markup with
  | some markup =>
    obtain ⟨hdocuments, hhosts, -⟩ := p.readContent_tree markup
    exact hadd _ _ (links_of_tree hdocuments hhosts) rfl
  | none =>
    cases form with
    | some f => exact hadd p _ rfl rfl
    | none => exact hadd p _ rfl rfl

/-- The effect on the links of an action other than `append` and `remove`. -/
theorem act_relinked {a : Action} (ha : p.offers a = true) (happend : ∀ d h, a ≠ .append d h)
    (hremove : ∀ d h, a ≠ .remove d h) : p.Relinked (p.act a).1 := by
  cases a with
  | append d h => exact absurd rfl (happend d h)
  | remove d h => exact absurd rfl (hremove d h)
  | newDocument =>
    refine .of_step ?_
    have hlinks : (p.act .newDocument).1.links =
        { p.links with children := p.links.children ++ [some []] } := by
      simp [act, addDocument, links]
    rw [hlinks]
    exact .newDocument p.links
  | dropDocument d =>
    refine .of_step ?_
    have hlinks : (p.act (.dropDocument d)).1.links =
        { p.links with children := p.links.children.set d none } := by
      simp [act, dropDocument, links, List.map_set]
    rw [hlinks]
    exact .dropDocument p.links d
  | appendMarkup d markup => exact .of_step (appendMarkup_step ha)
  | newHost attributes form markup rejecting =>
    exact .of_step (newHost_step p attributes form markup rejecting)
  | setOuterHtml h markup =>
    simp only [act]
    cases hr : p.setOuterHtml h markup with
    | ok r => exact .of_step (setOuterHtml_step hr)
    | error e => exact .of_eq rfl
  | run =>
    exact Relinked.trans (.of_eq rfl)
      (polls_relinked (p.woken ++ p.spawned) { p with woken := [], spawned := [] })
  | dispatchDocument d n => exact .of_eq (links_modifyDocument p d fun _ => rfl)
  | dispatchHost h n =>
    simp only [act]
    cases hq : p.dispatchHost h n with
    | ok q => exact .of_eq (dispatchHost_links hq)
    | error e => exact .of_eq rfl
  | setAttribute h name value =>
    simp only [act, setAttribute]
    split
    · exact .of_eq rfl
    · exact .of_eq (links_modifyHost p h fun _ => rfl)
  | removeAttribute h name =>
    simp only [act, removeAttribute]
    split
    · exact .of_eq rfl
    · exact .of_eq (links_modifyHost p h fun _ => rfl)
  | setInnerHtml h markup =>
    simp only [act, edited]
    cases hq : p.setInnerHtml h markup with
    | ok q => exact .of_eq (setInnerHtml_links hq)
    | error e => exact .of_eq rfl
  | submit f submitter depth =>
    exact .of_eq ((submitWithin_course depth p f submitter).links_eq fun _ => id)
  | handleSubmit c submitter =>
    exact .of_eq ((handleSubmit_course p c { submitter }).links_eq fun _ => id)
  | detach c => exact .of_eq ((detachWithin_course _ p c).links_eq fun _ => id)
  | listen f label reactions =>
    simp only [act, addListener]
    split
    · rename_i hq
      split at hq <;> cases hq
      exact .of_eq rfl
    · exact .of_eq rfl
  | create h =>
    simp only [act, Page.create]
    cases Config.ofAttributes (p.getAttribute h) with
    | error e => exact .of_eq rfl
    | ok resolved =>
      obtain ⟨notices, hnote⟩ := noteResolved_eq p resolved
      simp only [hnote]
      exact .of_eq rfl
  | attach c =>
    simp only [act]
    cases hq : p.attach c with
    | error e => exact .of_eq rfl
    | ok q => exact .of_eq ((attach_course hq).links_eq (by simp))
  | advance span =>
    obtain ⟨woken, hadvance⟩ := advance_eq p span
    simp only [act, hadvance]
    exact .of_eq rfl
  | deliver d outcome =>
    obtain ⟨woken, hsettle⟩ := settleDeferred_eq p d (.delivered outcome)
    simp only [act, hsettle]
    exact .of_eq rfl
  | dropDeferred d =>
    obtain ⟨woken, hsettle⟩ := settleDeferred_eq p d .dropped
    simp only [act, hsettle]
    exact .of_eq rfl
  | pollCall k =>
    simp only [act, pollUserCall]
    split
    · exact .of_eq rfl
    · split <;> exact .of_eq rfl
  | pollSleep n =>
    simp only [act, pollUserSleep]
    split
    · exact .of_eq rfl
    · split <;> exact .of_eq rfl
  | dropSleep n =>
    simp only [act, dropUserSleep]
    split <;> exact .of_eq rfl
  | _ => exact .of_eq rfl

end Relinked

/-! ## Hosts and their documents -/

/-- `p.documentOf? h` is the document that `h` is connected to, unless it was dropped. -/
def documentOf? (p : Page) (h : HostId) : Option DocumentId :=
  ((p.hosts[h]?).bind (·.parent)).filter fun d => (p.document? d).isSome

/-- `p.isCareful a`: a host is appended only if it is in no document, and removed only from its own
document. -/
def isCareful (p : Page) : Action → Bool
  | .append _ h => (p.documentOf? h).isNone
  | .remove d h => (p.documentOf? h).all (· == d)
  | _ => true

/-- `p.areCareful actions`: each action is careful when it is performed. -/
def areCareful : Page → List Action → Bool
  | _, [] => true
  | p, a :: rest => p.isCareful a && areCareful (p.perform a).1 rest

/-- `p.InRun q`: `q` is a page within a run from `p`, after polls of the first queued pipelines,
with any transport. -/
def InRun (p q : Page) : Prop :=
  ∃ (past : List PipelineId) (transport : MockTransport), past <+: p.woken ++ p.spawned ∧
    q = { past.foldl poll { p with woken := [], spawned := [] } with transport }

section Home

variable {p q : Page} {h : HostId} {d : DocumentId} {a : Action}

theorem documentOf?_eq_some :
    p.documentOf? h = some d ↔ p.links.parentOf h = some d ∧ p.links.lives d = true := by
  rw [documentOf?, links_parentOf, links_lives, Option.filter_eq_some_iff]

theorem documentOf?_eq_none :
    p.documentOf? h = none ↔ ∀ d, p.links.parentOf h = some d → p.links.lives d = false := by
  rw [documentOf?, links_parentOf, Option.filter_eq_none_iff]
  simp [links_lives]

/-- `setOuterHtml` fails exactly if the host is in no document, or if it is set to fail. -/
theorem setOuterHtml_eq_error_iff (hp : p.links.Sound) {markup : String} {e : DomError} :
    p.setOuterHtml h markup = .error e ↔
      if p.fails .setOuterHtml then e = .fault .setOuterHtml
      else p.documentOf? h = none ∧ e = .noParent := by
  have hlinked := hp.linked h
  unfold setOuterHtml documentOf?
  split
  · simp [eq_comm]
  rw [links_parentOf] at hlinked
  cases hparent : (p.hosts[h]?).bind (·.parent) with
  | none => simp [eq_comm]
  | some d =>
    cases hdoc : p.document? d with
    | none => simp [Option.filter, hdoc, eq_comm]
    | some doc =>
      -- the host is listed by its document, so nothing else can fail
      have hin : 0 < p.links.countIn d h :=
        (hlinked d hparent).2 (by rw [links_lives, hdoc]; rfl)
      rw [links_countIn, hdoc] at hin
      have hmem : doc.children.contains (.host h) = true :=
        List.contains_iff_mem.mpr (List.count_pos_iff.mp hin)
      simp only [hdoc, if_pos hmem]
      simp [Option.filter, hdoc]

/-- The effect of an action on the links. -/
theorem perform_links (p : Page) (a : Action) :
    p.Relinked (p.perform a).1 ∨
      (∃ d h, a = .append d h ∧ p.links.lives d = true ∧ h < p.links.parents.length ∧
        (p.perform a).1.links = p.links.append d h) ∨
      ∃ d h, a = .remove d h ∧ (p.perform a).1.links = p.links.remove d h := by
  unfold perform
  split
  · rename_i ha
    dsimp only
    by_cases happend : ∃ d h, a = .append d h
    · obtain ⟨d, h, rfl⟩ := happend
      rw [sweep_links]
      simp only [offers, Bool.and_eq_true, decide_eq_true_eq] at ha
      refine .inr (.inl ⟨d, h, rfl, ?_, ?_, append_links p d h⟩)
      · rw [links_lives]
        exact ha.1
      · simpa [links] using ha.2
    by_cases hremove : ∃ d h, a = .remove d h
    · obtain ⟨d, h, rfl⟩ := hremove
      rw [sweep_links]
      exact .inr (.inr ⟨d, h, rfl, remove_links p d h⟩)
    -- the other actions edit the links as the parts of a poll do
    have hact := act_relinked ha (fun d h heq => happend ⟨d, h, heq⟩)
      fun d h heq => hremove ⟨d, h, heq⟩
    exact .inl (hact.trans (.of_eq (sweep_links _)))
  · exact .inl (.of_eq rfl)

theorem perform_sound (hp : p.links.Sound) : (p.perform a).1.links.Sound := by
  rcases perform_links p a with hrelinked | ⟨d, h, -, hd, hh, hlinks⟩ | ⟨d, h, -, hlinks⟩
  · exact hp.steps hrelinked
  · rw [hlinks]
    exact hp.append hd hh
  · rw [hlinks]
    exact hp.remove d h

/-- Careful actions preserve `Exact`. -/
theorem perform_exact (hp : p.links.Sound) (he : p.links.Exact) (ha : p.isCareful a = true) :
    (p.perform a).1.links.Exact := by
  rcases perform_links p a with hrelinked | ⟨d, h, rfl, hd, hh, hlinks⟩ | ⟨d, h, rfl, hlinks⟩
  · exact he.steps hrelinked hp
  · rw [hlinks]
    exact he.append hd hh (documentOf?_eq_none.mp (Option.isNone_iff_eq_none.mp ha))
  · rw [hlinks]
    refine he.remove fun d' hparent hlives => ?_
    have hconnected : p.documentOf? h = some d' := documentOf?_eq_some.mpr ⟨hparent, hlives⟩
    simpa [isCareful, hconnected] using ha

theorem links_empty : ({} : Page).links.Sound ∧ ({} : Page).links.Exact := by
  have hcount (d h : Nat) : ({} : Page).links.countIn d h = 0 := by
    cases d <;> rfl
  refine ⟨⟨fun d h hc => ?_, fun h d hp => ?_⟩, fun d h hc => ?_⟩
  · rw [hcount] at hc
    cases hc
  · cases hp
  · rw [hcount] at hc
    cases hc

theorem Reachable.sound (hp : p.Reachable) : p.links.Sound :=
  hp.keeps (I := fun q => q.links.Sound) links_empty.1 fun _ _ _ hq => perform_sound hq

theorem performAll_exact {actions : List Action} (hp : p.links.Sound) (he : p.links.Exact)
    (hc : p.areCareful actions = true) : (p.performAll actions).links.Exact := by
  induction actions generalizing p with
  | nil => exact he
  | cons a rest ih =>
    obtain ⟨ha, hrest⟩ := Bool.and_eq_true_iff.mp hc
    exact ih (perform_sound hp) (perform_exact hp he ha) hrest

theorem InRun.relinked (h : p.InRun q) : p.Relinked q := by
  obtain ⟨past, transport, -, rfl⟩ := h
  exact polls_relinked past { p with woken := [], spawned := [] }

end Home

/-- A failed `setOuterHtml` preserves all documents and hosts. -/
theorem perform_setOuterHtml_failed {p : Page} {h : HostId} {markup : String} {e : Failure}
    (hfailed : (p.perform (.setOuterHtml h markup)).2 = .failed e) :
    (p.perform (.setOuterHtml h markup)).1.documents = p.documents ∧
      (p.perform (.setOuterHtml h markup)).1.hosts = p.hosts := by
  unfold perform at hfailed ⊢
  split
  · rename_i hoffers
    rw [if_pos hoffers] at hfailed
    cases hr : p.setOuterHtml h markup with
    | ok r => simp [act, hr] at hfailed
    | error e' =>
      obtain ⟨_, _, hsweep⟩ := p.sweep_eq
      simp [act, hr, hsweep]
  · exact ⟨rfl, rfl⟩

/-- After any actions, and within a run, a host that is connected to a document which was not
dropped is among its children. So a host can be replaced unless it is in no such document, and a
failed replacement changes nothing. If hosts are appended and removed with care, a host among the
children of a document is connected to it, occurs there once, and in no other document. -/
theorem documents_list_their_hosts (actions : List Action) {q : Page}
    (hq : q = performAll {} actions ∨ InRun (performAll {} actions) q) :
    (∀ h d, q.documentOf? h = some d →
      ∃ doc, q.document? d = some doc ∧ Child.host h ∈ doc.children) ∧
    (∀ h markup e, q.setOuterHtml h markup = .error e ↔
      if q.fails .setOuterHtml then e = .fault .setOuterHtml
      else q.documentOf? h = none ∧ e = .noParent) ∧
    (∀ h markup e, q.setOuterHtml h markup = .error e → q.fails .setOuterHtml = false →
      e.reason = "cannot replace an element without a parent") ∧
    (∀ h markup e, (q.perform (.setOuterHtml h markup)).2 = .failed e →
      (q.perform (.setOuterHtml h markup)).1.documents = q.documents ∧
      (q.perform (.setOuterHtml h markup)).1.hosts = q.hosts) ∧
    (areCareful {} actions = true → ∀ d doc h, q.document? d = some doc →
      Child.host h ∈ doc.children →
      q.documentOf? h = some d ∧ ∀ d' doc', q.document? d' = some doc' →
        doc'.children.count (.host h) = if d' = d then 1 else 0) := by
  have hreach : (performAll {} actions).Reachable := ⟨actions, rfl⟩
  have hrelinked : (performAll {} actions).Relinked q := by
    rcases hq with rfl | hrun
    · exact .of_eq rfl
    · exact hrun.relinked
  have hsound : q.links.Sound := hreach.sound.steps hrelinked
  refine ⟨fun h d hconnected => ?_, fun h markup e => setOuterHtml_eq_error_iff hsound,
    fun h markup e herror hfails => ?_, fun h markup e hfailed => ?_,
    fun hcareful d doc h hdoc hmem => ?_⟩
  · obtain ⟨hparent, hlives⟩ := documentOf?_eq_some.mp hconnected
    have hin := (hsound.linked h d hparent).2 hlives
    rw [links_lives] at hlives
    obtain ⟨doc, hdoc⟩ := Option.isSome_iff_exists.mp hlives
    rw [links_countIn, hdoc] at hin
    exact ⟨doc, hdoc, List.count_pos_iff.mp hin⟩
  · rw [setOuterHtml_eq_error_iff hsound, hfails] at herror
    rw [herror.2]
    rfl
  · exact perform_setOuterHtml_failed hfailed
  · have hexact : q.links.Exact :=
      (performAll_exact links_empty.1 links_empty.2 hcareful).steps hrelinked hreach.sound
    have hcount (d : DocumentId) (doc : Document) (hdoc : q.document? d = some doc) :
        q.links.countIn d h = doc.children.count (.host h) := by
      rw [links_countIn, hdoc]
      rfl
    have hin : 0 < q.links.countIn d h := by
      rw [hcount d doc hdoc]
      exact List.count_pos_iff.mpr hmem
    obtain ⟨hparent, hone⟩ := hexact d h hin
    refine ⟨documentOf?_eq_some.mpr ⟨hparent, Links.lives_of_countIn hin⟩, fun d' doc' hdoc' => ?_⟩
    rw [← hcount d' doc' hdoc']
    split
    · rename_i hd
      rw [hd, hone]
    · rename_i hd
      -- in another document it would have that one as its parent
      refine Nat.eq_zero_of_not_pos fun hpos => hd ?_
      have hother := (hexact d' h hpos).1
      rw [hparent] at hother
      exact (Option.some.inj hother).symm

/-- A host is moved to a second document, which is then dropped. -/
theorem documents_list_their_hosts_moved :
    areCareful {} [.newDocument, .newHost [] none none false, .append 0 0, .remove 0 0,
      .append 1 0] = true ∧
    (performAll {} [.newDocument, .newHost [] none none false, .append 0 0, .remove 0 0,
      .append 1 0]).documentOf? 0 = some 1 ∧
    (performAll {} [.newDocument, .newHost [] none none false, .append 0 0, .remove 0 0,
      .append 1 0, .dropDocument 1]).setOuterHtml 0 "" = .error .noParent := by
  have hmoved := documents_list_their_hosts [.newDocument, .newHost [] none none false,
    .append 0 0, .remove 0 0, .append 1 0] (.inl rfl)
  have hdropped := documents_list_their_hosts [.newDocument, .newHost [] none none false,
    .append 0 0, .remove 0 0, .append 1 0, .dropDocument 1] (.inl rfl)
  obtain ⟨-, -, -, -, hcareful⟩ := hmoved
  obtain ⟨-, hfails, -⟩ := hdropped
  refine ⟨rfl, (hcareful rfl 1 ⟨[.host 0], []⟩ 0 rfl List.mem_cons_self).1, ?_⟩
  exact (hfails 0 "" .noParent).mpr ⟨rfl, rfl⟩

end Page

end FormSwap
