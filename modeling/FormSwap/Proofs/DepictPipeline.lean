import FormSwap.Proofs.Depict

/-!
# Polls in a view

If a view depicts a page, then `View.poll` depicts the page after `Page.poll`. So a run can be
followed in the view, where nothing depends on the order of creation.

The proof follows a poll step by step: `View.put` is the view with the changes of the poll so far,
and each step of the poll extends it.

Main results:

- `View.Depicts.put_swapOuter`, `View.Depicts.put_swapInner`: the swap of a response
- `View.Depicts.poll`: a poll of the page is a poll of the view
- `View.Depicts.run`, `View.Depicts.sweep`, `View.Depicts.deliver`: runs, sweeps and deliveries
-/

namespace FormSwap

open FormSwap.Markup

/-! ## Steps of a poll -/

namespace View

/-- `put` of an unchanged component is the view with its transport. -/
theorem put_still {w : View} {s : PipelineId} {pipe : PipelineView}
    (hpipe : w.pipeline s = some pipe) (transport : MockTransport) :
    w.put s pipe transport { w.still pipe.owner with stage := pipe.stage } =
      { w with transport } := by
  have hsame : Function.update w.pipeline s (some pipe) = w.pipeline := by
    rw [← hpipe]
    exact Function.update_eq_self _ _
  simp [put, still, Change.edit, hsame]

namespace Depicts

open Page

variable {w : View} {n m : Nat} {p : Page} {s : PipelineId} {pipe : PipelineView}
  {transport : MockTransport} {e : Change}

/-- `put` shows the component of the pipeline. -/
theorem put_component_eq (hw : (w.put s pipe transport e).Depicts n m p) (hc : pipe.owner < m)
    {k : Component} (hk : p.component? pipe.owner = some k) : k.view = e.component :=
  (hw.component pipe.owner k hc hk).symm.trans (Function.update_self _ _ _)

theorem put_host_eq (hw : (w.put s pipe transport e).Depicts n m p)
    (hh : (w.component pipe.owner).host < n) {host : Host}
    (hhost : p.hosts[(w.component pipe.owner).host]? = some host) : p.hostView host = e.host :=
  (hw.host _ host hh hhost).symm.trans (Function.update_self _ _ _)

/-- `put` after a change of the component. -/
theorem put_component (hw : (w.put s pipe transport e).Depicts n m p) (hc : pipe.owner < m)
    {k : Component} (hk : p.component? pipe.owner = some k) (change : Component → Component)
    (f : ComponentView → ComponentView) (hf : (change k).view = f k.view) :
    (w.put s pipe transport { e with component := f e.component }).Depicts n m
      (p.modifyComponent pipe.owner change) := by
  have hv (k' : Component) (hk' : p.component? pipe.owner = some k') :
      (change k').view = f e.component := by
    rw [hk] at hk'
    cases hk'
    rw [hf, hw.put_component_eq hc hk]
  have h := hw.modifyComponent pipe.owner hv
  simpa only [put, Change.edit, Function.update_idem] using h

/-- `put` after a change of its host. -/
theorem put_host (hw : (w.put s pipe transport e).Depicts n m p)
    (hh : (w.component pipe.owner).host < n) (change : Host → Host) (f : HostView → HostView)
    (hf : ∀ host, p.hostView (change host) = f (p.hostView host))
    (hform : ∀ host g, (change host).content.form? = some g →
      host.content.form? = some g ∨ g < p.forms.length) :
    (w.put s pipe transport { e with host := f e.host }).Depicts n m
      (p.modifyHost (w.component pipe.owner).host change) := by
  have hv (host : Host) (hhost : p.hosts[(w.component pipe.owner).host]? = some host) :
      p.hostView (change host) = f e.host := by
    rw [hf, hw.put_host_eq hh hhost]
  have h := hw.modifyHost hh hv fun host g hhost hg => (hform host g hg).elim
    (hw.formsKnown host (List.mem_of_getElem? hhost) g) id
  simpa only [put, Change.edit, Function.update_idem] using h

/-- `put` after a change of its document. -/
private theorem put_document (hw : (w.put s pipe transport e).Depicts n m p) {d : DocumentId}
    (hd : (w.host (w.component pipe.owner).host).parent = some d) {e' : Change}
    {change : Document → Document} {f : DocumentView → DocumentView}
    (hf : ∀ doc, p.documentView n (change doc) = f (p.documentView n doc))
    (hknown : (p.modifyDocument d change).ChildrenKnown)
    (hedit : ∀ v, f (e.edit (w.component pipe.owner).host v) =
      e'.edit (w.component pipe.owner).host v)
    (hcomponent : e'.component = e.component) (hhost : e'.host = e.host)
    (hstage : e'.stage = e.stage) :
    (w.put s pipe transport e').Depicts n m (p.modifyDocument d change) := by
  have h := hw.modifyDocument d hf hknown
  have hview : w.put s pipe transport e' = { w.put s pipe transport e with
      document := fun d' => ((w.put s pipe transport e).document d').map fun v =>
        if d = d' then f v else v } := by
    simp only [put, hcomponent, hhost, hstage, hd, Option.map_map, Option.some.injEq]
    congr 1
    funext d'
    congr 1
    funext v
    simp only [Function.comp_apply]
    split
    · exact (hedit v).symm
    · rfl
  rw [hview]
  exact h

/-- `put` after the host is replaced in its document. -/
theorem put_pieces (hw : (w.put s pipe transport e).Depicts n m p) (he : e.pieces = none)
    (hh : (w.component pipe.owner).host < n) {d : DocumentId}
    (hd : (w.host (w.component pipe.owner).host).parent = some d) {children : List Child}
    (hchildren : ∀ h, Child.host h ∈ children → h < p.hosts.length) :
    (w.put s pipe transport { e with pieces := some (children.map (p.piece n)) }).Depicts n m
      (p.modifyDocument d fun doc =>
        { doc with children := splice (w.component pipe.owner).host children doc.children }) := by
  refine hw.put_document hd
    (f := fun v => { v with
      pieces := Piece.splice (w.component pipe.owner).host (children.map (p.piece n)) v.pieces })
    (fun doc => ?_) ?_ (fun v => ?_) rfl rfl rfl
  · simp only [documentView, map_splice hh]
  · refine hw.childrenKnown.modifyDocument d fun doc h hm => ?_
    rcases mem_splice hm with hnew | hold
    · exact .inr (hchildren h hnew)
    · exact .inl hold
  · simp only [Change.edit, he]

/-- `put` after an event on its document. -/
theorem put_event (hw : (w.put s pipe transport e).Depicts n m p) {d : DocumentId}
    (hd : (w.host (w.component pipe.owner).host).parent = some d) (x : Notification) :
    (w.put s pipe transport { e with events := e.events + {x} }).Depicts n m
      (p.dispatchDocument d x) := by
  refine hw.put_document hd (f := fun v => { v with events := v.events + {x} })
    (fun doc => ?_) ?_ (fun v => ?_) rfl rfl rfl
  · simp only [documentView, ← Multiset.coe_singleton, Multiset.coe_add]
  · exact hw.childrenKnown.modifyDocument d fun _ _ hm => .inl hm
  · simp only [Change.edit, add_assoc]

/-- `put` after a change of the stage. -/
theorem put_stage (hw : (w.put s pipe transport e).Depicts n m p) (stage : Stage)
    (hstage : 0 < stage.rank) :
    (w.put s pipe transport { e with stage := p.stageView stage }).Depicts n m
      (p.setStage s stage) := by
  have h := hw.setStage (Function.update_self _ _ _) stage hstage
  simpa only [put, Change.edit, Function.update_idem] using h

/-! ## The settle delay -/

theorem fails_eq (hw : w.Depicts n m p) (f : Fault) : p.fails f = w.fails f := by
  rw [Page.fails, ← hw.faults]
  rfl

/-- `put` after `leaveSubmitting`. -/
private theorem put_leave (hw : (w.put s pipe transport e).Depicts n m p) (hc : pipe.owner < m)
    (hh : (w.component pipe.owner).host < n)
    (hhost : e.component.host = (w.component pipe.owner).host) {k : Component}
    (hk : p.component? pipe.owner = some k) :
    (w.put s pipe transport
      { e with
        component := { e.component with state := .idle }
        host := if w.fails .removeAttribute then e.host else e.host.unmark }).Depicts n m
      (p.leaveSubmitting pipe.owner) := by
  have hkhost : k.host = (w.component pipe.owner).host :=
    (congrArg ComponentView.host (hw.put_component_eq hc hk)).trans hhost
  have hfails : p.fails .removeAttribute = w.fails .removeAttribute := hw.fails_eq _
  obtain ⟨notices, hleave⟩ := leaveSubmitting_eq hk
  rw [hleave, hostsUnmarking, hkhost, hfails]
  have hidle := hw.put_component hc hk Component.madeIdle (fun v => { v with state := .idle }) rfl
  split
  · exact hidle.aside _ rfl notices _ _
  · have hunmarked := hidle.put_host hh Host.unmark HostView.unmark (fun _ => rfl)
      fun _ _ hg => .inl hg
    exact hunmarked.aside _ rfl notices _ _

/-- `put` after the transition to the settle delay. -/
theorem put_settle (hw : (w.put s pipe transport e).Depicts n m p) (hc : pipe.owner < m)
    (hh : (w.component pipe.owner).host < n)
    (hhost : e.component.host = (w.component pipe.owner).host) {k : Component}
    (hk : p.component? pipe.owner = some k) (sleep : Sleep) :
    (w.put s pipe transport (w.settle sleep.deadline e)).Depicts n m
      (p.settle s pipe.owner sleep) := by
  have hnow : w.now = p.clock.now := hw.now
  have hpoll := hw.aside _ (p.clock.now_poll sleep (some s)) p.notices p.woken p.spawned
  unfold Page.settle
  split
  · rename_i clock _ hover
    rw [hover] at hpoll
    have hdue : sleep.deadline ≤ w.now := by
      rw [hnow, ← @ManualClock.poll_over_iff p.clock sleep (some s), hover]
    rw [View.settle, if_pos hdue]
    exact (hpoll.put_leave hc hh hhost hk).put_stage .finished (by simp [Stage.rank])
  · rename_i clock sleep' hover
    rw [hover] at hpoll
    have hearly : ¬ sleep.deadline ≤ w.now := by
      rw [hnow, ← @ManualClock.poll_over_iff p.clock sleep (some s), hover]
      simp
    have hdeadline : sleep'.deadline = sleep.deadline := by
      rw [← p.clock.deadline_poll sleep (some s), hover]
    rw [View.settle, if_neg hearly, ← hdeadline]
    exact hpoll.put_stage (.settling sleep') (by simp [Stage.rank])

/-- `put` after the result is logged, and the transition to the settle delay. -/
theorem put_conclude (hw : (w.put s pipe transport e).Depicts n m p) (hc : pipe.owner < m)
    (hh : (w.component pipe.owner).host < n)
    (hhost : e.component.host = (w.component pipe.owner).host)
    (hconfig : e.component.config = (w.component pipe.owner).config) {k : Component}
    (hk : p.component? pipe.owner = some k) (result : Except SubmitError Nat) :
    (w.put s pipe transport
      (w.settle (w.now + (w.component pipe.owner).config.delay) e)).Depicts n m
      (p.conclude s pipe.owner result) := by
  have hnoted := hw.note (resultNotice result)
  have hk' : (p.note (resultNotice result)).component? pipe.owner = some k := hk
  have hdelay : k.config.delay = (w.component pipe.owner).config.delay := by
    rw [← hconfig, ← hw.put_component_eq hc hk]
    rfl
  have hdeadline : w.now + (w.component pipe.owner).config.delay =
      (p.clock.sleep k.config.delay).deadline := by
    rw [hdelay, show w.now = p.clock.now from hw.now]
    rfl
  unfold conclude
  dsimp only
  rw [hk', Option.map_some, Option.getD_some, hdeadline]
  exact hnoted.put_settle hc hh hhost hk' _

/-! ## Swaps -/

/-- `mount` on a new host succeeds exactly if the piece is mountable. -/
theorem mount_isOk_eq (hw : w.Depicts n m p) {h : HostId} (hn : n ≤ h) (hh : h < p.hosts.length) :
    (p.mount h).2.isOk = w.mountable (p.piece n (.host h)) := by
  have hhost := List.getElem?_eq_getElem hh
  rw [Page.mount_isOk hhost]
  simp only [piece, Nat.not_lt.mpr hn, if_false, hhost, mountable, attachable, ← hw.fails_eq,
    isSome_contents_form (hw.formsKnown _ (List.getElem_mem hh)), Bool.and_assoc]

/-- `mount` on a new host preserves `Depicts`. -/
theorem mount (hw : w.Depicts n m p) {h : HostId} {q : Page}
    {result : Except ConfigError ComponentId} (hq : p.mount h = (q, result)) :
    w.Depicts n m q ∧ (∀ c, c < p.components.length → q.component? c = p.component? c) ∧
      q.hosts = p.hosts ∧ KeptUpTo Form.SameData p.forms q.forms := by
  cases result with
  | error err =>
    obtain ⟨notices, rfl⟩ := mount_error_eq hq
    exact ⟨hw.aside p.clock rfl notices p.woken p.spawned, fun _ _ => rfl, rfl,
      .refl Form.SameData.refl _⟩
  | ok r =>
    obtain ⟨rfl, f, config, notices, -, rfl⟩ := mount_eq hq
    have hforms : KeptUpTo Form.SameData p.forms
        (p.formsWith f ⟨p.nextListener f, .component p.components.length⟩) :=
      .modify Form.SameData.refl _ _ fun _ => rfl
    have hold (c : ComponentId) (hc : c < p.components.length) := component?_of_append
      (q := { p with
        forms := p.formsWith f ⟨p.nextListener f, .component p.components.length⟩
        components := p.components ++
          [some (Component.bound f ⟨f, p.nextListener f⟩ { host := h, config })]
        notices }) (p := p) rfl c |>.trans (if_neg (Nat.ne_of_lt hc))
    refine ⟨hw.of_grown hforms (.refl (fun _ => rfl) _) ?_ rfl ?_ (by simp) rfl rfl rfl rfl, hold,
      rfl, hforms⟩
    · intro host hhost g hg
      exact Nat.lt_of_lt_of_le (hw.formsKnown host hhost g hg) hforms.length_le
    · intro c k hc hk
      exact (hold c (Nat.lt_of_lt_of_le hc hw.components_le)).symm.trans hk

/-- `put` after the replacements are mounted and adopted. -/
theorem put_adopt (hw : (w.put s pipe transport e).Depicts n m p) (hc : pipe.owner < m)
    {k : Component} (hk : p.component? pipe.owner = some k) {l : List HostId}
    (hl : ∀ h ∈ l, n ≤ h ∧ h < p.hosts.length) (pieceOf : HostId → Piece)
    (hpiece : ∀ h ∈ l, p.piece n (.host h) = pieceOf h) :
    (w.put s pipe transport
      { e with component := { e.component with
          replacements :=
            e.component.replacements + (l.map pieceOf).countP w.mountable } }).Depicts n m
      (adopt pipe.owner p l) := by
  induction l generalizing p e k with
  | nil => exact hw
  | cons h rest ih =>
    obtain ⟨hn, hh⟩ := hl h (by simp)
    have hmountable : (p.mount h).2.isOk = w.mountable (pieceOf h) := by
      rw [← hpiece h (by simp)]
      exact hw.mount_isOk_eq hn hh
    unfold adopt
    cases hmount : p.mount h with
    | mk q result =>
      obtain ⟨hq, hold, hhosts, hforms⟩ := hw.mount hmount
      have hk' : q.component? pipe.owner = some k := (hold _ (lt_of_component? hk)).trans hk
      have hl' : ∀ h' ∈ rest, n ≤ h' ∧ h' < q.hosts.length := by
        intro h' hh'
        rw [hhosts]
        exact hl h' (by simp [hh'])
      -- the new hosts have the same pieces
      have hpiece' : ∀ h' ∈ rest, q.piece n (.host h') = pieceOf h' := by
        intro h' hh'
        rw [← hpiece h' (by simp [hh'])]
        exact piece_of_kept hforms (hhosts ▸ .refl (fun _ => rfl) _) hw.formsKnown n
          (hl h' (by simp [hh'])).2
      rw [hmount] at hmountable
      rw [List.map_cons, List.countP_cons, ← hmountable]
      cases result with
      | error err => exact ih (hq.note _) hk' hl' hpiece'
      | ok r =>
        have hnoted := hq.put_component hc hk' (Component.replacedBy r)
          (fun v => { v with replacements := v.replacements + 1 })
          (by simp [Component.view, Component.replacedBy])
        have hk'' : (q.modifyComponent pipe.owner (Component.replacedBy r)).component? pipe.owner =
            some (k.replacedBy r) := by
          rw [component?_of_modify (p := q) rfl, if_pos rfl, hk']
          rfl
        have hsum : e.component.replacements + ((rest.map pieceOf).countP w.mountable + 1) =
            e.component.replacements + 1 + (rest.map pieceOf).countP w.mountable := by omega
        have hok : (q, (Except.ok r : Except ConfigError ComponentId)).2.isOk = true := rfl
        rw [if_pos hok, hsum]
        exact ih hnoted hk'' hl' hpiece'

/-- `setOuterHtml` succeeds exactly if the host is replaceable in the view. -/
theorem replaceable_eq (hw : w.Depicts n m p) {h : HostId} (hh : h < n) (markup : String) :
    w.replaceable h = (p.setOuterHtml h markup).isOk := by
  obtain ⟨host, hhost, hview⟩ := hw.exists_host hh
  unfold replaceable setOuterHtml
  rw [hw.fails_eq, hview, hhost, Option.bind_some]
  cases w.fails .setOuterHtml with
  | true => rfl
  | false =>
    dsimp only [hostView]
    cases host.parent with
    | none => rfl
    | some d =>
      simp only [Option.any_some, hw.document]
      cases p.document? d with
      | none => rfl
      | some doc =>
        have hcontains : (doc.children.map (p.piece n)).contains (.host h) =
            doc.children.contains (.host h) := by
          simp [piece_eq_host_iff hh]
        simp only [Option.map_some, Option.any_some, documentView, hcontains]
        cases doc.children.contains (Child.host h) <;> rfl

/-- `put` after `setOuterHtml`. -/
private theorem put_setOuterHtml (hw : ({ w with transport } : View).Depicts n m p)
    (hpipe : w.pipeline s = some pipe) (hh : (w.component pipe.owner).host < n) {body : String}
    {r : Replacement} (hr : p.setOuterHtml (w.component pipe.owner).host body = .ok r) :
    (w.put s pipe transport
      { stage := pipe.stage
        component := w.component pipe.owner
        host := { w.host (w.component pipe.owner).host with parent := none }
        pieces := some (Piece.read body) }).Depicts n m r.page ∧
    (w.host (w.component pipe.owner).host).parent = some r.parent ∧
    (∀ h ∈ r.inserted, n ≤ h) ∧
    (r.inserted.map fun h => r.page.piece n (.host h)).countP w.mountable =
      (Piece.read body).countP w.mountable := by
  obtain ⟨host, hhost, hview⟩ := hw.exists_host hh
  have hview : w.host (w.component pipe.owner).host = p.hostView host := hview
  obtain ⟨hparent, hinserted, hpage⟩ := setOuterHtml_eq hr hhost
  have hd : (w.host (w.component pipe.owner).host).parent = some r.parent := by
    rw [hview]
    exact hparent
  have hgrown := addFragments_grown r.parent p (fragments body.toList)
  have hnew := (addFragments_kept r.parent p (fragments body.toList)).2
  have hpieces := addFragments_pieces r.parent (fragments body.toList) hw.hosts_le
  rw [hpage]
  refine ⟨?_, hd, fun h hm => Nat.le_trans hw.hosts_le ((setOuterHtml_kept hr).2 h hm).1, ?_⟩
  · have hstart :
        (w.put s pipe transport { w.still pipe.owner with stage := pipe.stage }).Depicts n m
        (addFragments r.parent p (fragments body.toList)).1 := by
      rw [put_still hpipe]
      exact hw.grown hgrown
    have hreplaced := hstart.put_pieces rfl hh hd fun h hm => (hnew h hm).2
    rw [hpieces] at hreplaced
    exact hreplaced.put_host hh _ (fun v => { v with parent := none }) (fun _ => rfl)
      fun _ _ hg => .inl hg
  · rw [hinserted, piece_modifyHost hh]
    exact (countP_mountable w _ n _).trans (congrArg _ hpieces)

/-- `put` after the component releases its form and is detached. -/
private theorem put_retire (hw : (w.put s pipe transport e).Depicts n m p) (hc : pipe.owner < m)
    {k : Component} (hk : p.component? pipe.owner = some k) :
    (w.put s pipe transport
      { e with
        component := { e.component with detached := true, attached := false } }).Depicts n m
      { p with
        forms := p.formsWithout k.listener
        components := p.components.modify pipe.owner (Option.map Component.retired) } := by
  have hretired := hw.put_component hc hk Component.retired
    (fun v => { v with detached := true, attached := false }) rfl
  exact hretired.forms (formsWithout_data p k.listener)

/-- `put` after `swapOuter`. -/
theorem put_swapOuter (hw : ({ w with transport } : View).Depicts n m p)
    (hpipe : w.pipeline s = some pipe) (hc : pipe.owner < m)
    (hh : (w.component pipe.owner).host < n) {k : Component}
    (hk : p.component? pipe.owner = some k) {body : String} {x : Notification} {q : Page}
    (hq : p.swapOuter pipe.owner (w.component pipe.owner).host body x = .ok q) :
    (w.put s pipe transport { w.swapOuter pipe.owner body x with stage := pipe.stage }).Depicts n m
      q := by
  unfold Page.swapOuter at hq
  split at hq
  · cases hq
  rename_i r hr
  cases hq
  have hreplaceable : w.replaceable (w.component pipe.owner).host = true :=
    (hw.replaceable_eq hh body).trans (by rw [hr]; rfl)
  obtain ⟨hkept, hlt⟩ := setOuterHtml_kept hr
  obtain ⟨hreplaced, hd, hle, hcount⟩ := hw.put_setOuterHtml hpipe hh hr
  have hk' : r.page.component? pipe.owner = some k := (hkept.component? _).trans hk
  have hretired := hreplaced.put_retire hc hk'
  -- the pieces do not depend on the listeners
  have hadopted := hretired.put_adopt hc (k := k.retired) (l := r.inserted)
    ((component?_of_modify (p := r.page) rfl _).trans (by rw [if_pos rfl, hk']; rfl))
    (fun h hm => ⟨hle h hm, (hlt h hm).2⟩) (fun h => r.page.piece n (.host h))
    fun h hm => by
      refine piece_of_kept ?_ ?_ hreplaced.formsKnown n (hlt h hm).2
      · exact formsWithout_data r.page k.listener
      · exact .refl (fun _ => rfl) _
  have htold : (w.put s pipe transport
      { stage := pipe.stage
        component :=
          { w.component pipe.owner with
            detached := true
            attached := false
            replacements := (w.component pipe.owner).replacements +
              (r.inserted.map fun h => r.page.piece n (.host h)).countP w.mountable }
        host := { w.host (w.component pipe.owner).host with parent := none }
        pieces := some (Piece.read body)
        events := 0 + {x} }).Depicts n m _ := hadopted.put_event hd x
  rw [hcount, zero_add] at htold
  rw [retire_eq hk', View.swapOuter, if_pos hreplaceable]
  exact htold

/-- A failed `swapOuter` is no change in the view. -/
theorem swapOuter_of_error (hw : ({ w with transport } : View).Depicts n m p)
    (hh : (w.component pipe.owner).host < n) {body : String} {x : Notification} {err : DomError}
    (hq : p.swapOuter pipe.owner (w.component pipe.owner).host body x = .error err) :
    w.swapOuter pipe.owner body x = w.still pipe.owner := by
  unfold Page.swapOuter at hq
  split at hq
  · rename_i hr
    have hstays : w.replaceable (w.component pipe.owner).host = false :=
      (hw.replaceable_eq hh body).trans (by rw [hr]; rfl)
    rw [View.swapOuter, if_neg (by simp [hstays])]
  · cases hq

/-- `put` after `listen`. -/
private theorem put_listen (hw : (w.put s pipe transport e).Depicts n m p) (hc : pipe.owner < m)
    {k : Component} (hk : p.component? pipe.owner = some k) {f : FormId} {q : Page}
    (hq : p.listen pipe.owner f = .ok q) :
    (w.put s pipe transport
      { e with component := { e.component with attached := true } }).Depicts n m q := by
  rw [listen_eq hq]
  have hbound := hw.put_component hc hk (Component.bound f ⟨f, p.nextListener f⟩)
    (fun v => { v with attached := true }) rfl
  exact hbound.forms (.modify Form.SameData.refl _ _ fun _ => rfl)

/-- `put` after `releaseForm`. -/
private theorem put_release (hw : (w.put s pipe transport e).Depicts n m p) (hc : pipe.owner < m)
    {k : Component} (hk : p.component? pipe.owner = some k) :
    (w.put s pipe transport
      { e with component := { e.component with attached := false } }).Depicts n m
      (p.releaseForm pipe.owner) := by
  rw [releaseForm_eq hk]
  have hunbound := hw.put_component hc hk Component.unbound
    (fun v => { v with attached := false }) rfl
  exact hunbound.forms (formsWithout_data p k.listener)

/-- `put` after the component is bound to the new form of its host. -/
private theorem put_rebind (hw : (w.put s pipe transport e).Depicts n m p) (hc : pipe.owner < m)
    (hh : (w.component pipe.owner).host < n) {k : Component}
    (hk : p.component? pipe.owner = some k) {host : Host}
    (hhost : p.hosts[(w.component pipe.owner).host]? = some host) :
    (w.put s pipe transport
      { e with
        component := { e.component with attached := w.attachable e.host.contents } }).Depicts n m
      (p.rebind pipe.owner (w.component pipe.owner).host) := by
  have hreleased := hw.put_release hc hk
  have hk' : (p.releaseForm pipe.owner).component? pipe.owner = some k.unbound := by
    rw [releaseForm_eq hk, component?_of_modify (p := p) rfl, if_pos rfl, hk]
    rfl
  -- the view shows whether the new contents have a form
  have hform : e.host.contents.form.isSome = host.content.form?.isSome := by
    rw [← hw.put_host_eq hh hhost]
    exact isSome_contents_form (hw.formsKnown host (List.mem_of_getElem? hhost))
  have hquery : (p.releaseForm pipe.owner).queryForm (w.component pipe.owner).host =
      host.content.form? := by
    rw [queryForm, (releaseForm_tree p pipe.owner).2, hhost]
    rfl
  have hfails : (p.releaseForm pipe.owner).fails .addSubmitListener =
      w.fails .addSubmitListener := hreleased.fails_eq _
  unfold rebind attachable
  dsimp only
  rw [hquery, hform, ← hfails]
  cases host.content.form? with
  | none => exact hreleased.note _
  | some f =>
    rw [← listen_isOk _ pipe.owner f]
    dsimp only
    cases hq : (p.releaseForm pipe.owner).listen pipe.owner f with
    | error err => exact hreleased.note _
    | ok q => exact hreleased.put_listen hc hk' hq

/-- `put` after an event on the host, which bubbles to its document. -/
private theorem put_dispatch (hw : (w.put s pipe transport e).Depicts n m p)
    (hh : (w.component pipe.owner).host < n)
    (hparent : e.host.parent = (w.host (w.component pipe.owner).host).parent)
    (hsome : e.host.parent.isSome = true) (x : Notification) :
    (w.put s pipe transport
      { e with
        host := { e.host with
          dispatched :=
            if e.host.rejecting then e.host.dispatched else e.host.dispatched ++ [x] }
        events := e.events + if e.host.rejecting then 0 else {x} }).Depicts n m
      (match p.dispatchHost (w.component pipe.owner).host x with
      | .ok q => q
      | .error err => p.note (.notDispatched err)) := by
  obtain ⟨host, hhost, -⟩ := hw.exists_host hh
  have hview := hw.put_host_eq hh hhost
  have hrejecting : host.rejecting = e.host.rejecting := congrArg HostView.rejecting hview
  obtain ⟨d, hd⟩ := Option.isSome_iff_exists.mp hsome
  have hd' : host.parent = some d := (congrArg HostView.parent hview).trans hd
  unfold dispatchHost
  rw [hhost]
  dsimp only
  rw [hrejecting, hd']
  by_cases hr : e.host.rejecting = true
  · rw [if_pos hr, if_pos hr, if_pos hr, add_zero]
    exact hw.note _
  · rw [if_neg hr, if_neg hr, if_neg hr]
    have hown := hw.put_host hh
      (fun host => { host with dispatched := host.dispatched ++ [x] })
      (fun v => { v with dispatched := v.dispatched ++ [x] }) (fun _ => rfl)
      fun _ _ hg => .inl hg
    exact hown.put_event (hparent.symm.trans hd) x

/-- `put` after `swapInner`. -/
theorem put_swapInner (hw : ({ w with transport } : View).Depicts n m p)
    (hpipe : w.pipeline s = some pipe) (hc : pipe.owner < m)
    (hh : (w.component pipe.owner).host < n) {k : Component}
    (hk : p.component? pipe.owner = some k)
    (hparent : (w.host (w.component pipe.owner).host).parent.isSome = true) {body : String}
    {x : Notification} {q : Page}
    (hq : p.swapInner pipe.owner (w.component pipe.owner).host body x = .ok q) :
    (w.put s pipe transport { w.swapInner pipe.owner body x with stage := pipe.stage }).Depicts n m
      q := by
  unfold Page.swapInner at hq
  split at hq
  · cases hq
  rename_i p₁ hinner
  have hworks : w.fails .setInnerHtml = false := by
    have hsame : p.fails .setInnerHtml = w.fails .setInnerHtml := hw.fails_eq _
    rw [← hsame]
    cases hfails : p.fails .setInnerHtml with
    | false => rfl
    | true => simp [setInnerHtml, hfails] at hinner
  have hpage : p₁ = (p.readContent body).1.modifyHost (w.component pipe.owner).host fun host =>
      { host with content := (p.readContent body).2 } := by
    unfold setInnerHtml at hinner
    split at hinner
    · cases hinner
    · exact (Except.ok.inj hinner).symm
  have hstart : (w.put s pipe transport { w.still pipe.owner with stage := pipe.stage }).Depicts n m
      (p.readContent body).1 := by
    rw [put_still hpipe]
    exact hw.grown (p.readContent_grown body)
  -- the host changes first, then the component, then the events
  have hread := hstart.put_host hh
    (fun host => { host with content := (p.readContent body).2 })
    (fun v => { v with contents := .read body })
    (fun host => by rw [← p.readContent_contents body]; rfl)
    fun _ g hg => .inr ((p.readContent_kept body).2 g hg)
  rw [← hpage] at hread
  have hk₁ : p₁.component? pipe.owner = some k := ((setInnerHtml_kept hinner).component? _).trans hk
  obtain ⟨_, hhost₁, -⟩ := hread.exists_host hh
  have hrebound := hread.put_rebind hc hh hk₁ hhost₁
  have htold : (w.put s pipe transport
      { stage := pipe.stage
        component := { w.component pipe.owner with attached := w.attachable (.read body) }
        host :=
          { w.host (w.component pipe.owner).host with
            contents := .read body
            dispatched :=
              if (w.host (w.component pipe.owner).host).rejecting then
                (w.host (w.component pipe.owner).host).dispatched
              else (w.host (w.component pipe.owner).host).dispatched ++ [x] }
        events :=
          0 + if (w.host (w.component pipe.owner).host).rejecting then 0 else {x} }).Depicts
            n m _ :=
    hrebound.put_dispatch hh rfl hparent x
  rw [zero_add] at htold
  rw [View.swapInner, if_pos (by simp [hparent, hworks])]
  dsimp only at hq
  cases hdispatch : (p₁.rebind pipe.owner (w.component pipe.owner).host).dispatchHost
      (w.component pipe.owner).host x with
  | ok r =>
    rw [hdispatch] at hq htold
    cases hq
    exact htold
  | error err =>
    rw [hdispatch] at hq htold
    cases hq
    exact htold

/-- A failed `swapInner` is no change in the view. -/
theorem swapInner_of_error (hw : ({ w with transport } : View).Depicts n m p) {body : String}
    {x : Notification} {err : DomError}
    (hq : p.swapInner pipe.owner (w.component pipe.owner).host body x = .error err) :
    w.swapInner pipe.owner body x = w.still pipe.owner := by
  have hsame : p.fails .setInnerHtml = w.fails .setInnerHtml := hw.fails_eq _
  unfold Page.swapInner at hq
  split at hq
  · rename_i hinner
    have hfails : w.fails .setInnerHtml = true := by
      rw [← hsame]
      by_contra hworks
      simp [setInnerHtml, hworks] at hinner
    rw [View.swapInner, if_neg (by simp [hfails])]
  · dsimp only at hq
    split at hq <;> cases hq

/-! ## Polls -/

/-- `put` after `applyResponse`. -/
theorem put_applyResponse (hw : ({ w with transport } : View).Depicts n m p)
    (hpipe : w.pipeline s = some pipe) (hc : pipe.owner < m)
    (hh : (w.component pipe.owner).host < n) {k : Component}
    (hk : p.component? pipe.owner = some k) (body : String) (x : Notification) :
    (∀ q, p.applyResponse pipe.owner body x = .ok q →
      (w.put s pipe transport
        { w.swap pipe.owner body x with stage := pipe.stage }).Depicts n m q) ∧
    ∀ err, p.applyResponse pipe.owner body x = .error err →
      w.swap pipe.owner body x = w.still pipe.owner := by
  obtain ⟨host, hhost, hhostView⟩ := hw.exists_host hh
  have hhostView : w.host (w.component pipe.owner).host = p.hostView host := hhostView
  have hview : w.component pipe.owner = k.view := hw.component _ k hc hk
  have hkhost : k.host = (w.component pipe.owner).host := by rw [hview]; rfl
  have hswap : (w.component pipe.owner).config.swap = k.config.swap := by rw [hview]; rfl
  have hparent : (w.host (w.component pipe.owner).host).parent = host.parent := by
    rw [hhostView]
    rfl
  unfold applyResponse
  rw [hk]
  dsimp only
  rw [hkhost, hhost, Option.map_some, Option.getD_some, View.swap, hswap]
  by_cases hconnected : host.connected = true
  · rw [if_pos hconnected]
    cases k.config.swap with
    | outer =>
      dsimp only
      cases hq : p.swapOuter pipe.owner (w.component pipe.owner).host body x with
      | ok q =>
        refine ⟨fun q' hq' => ?_, fun err herr => (by cases herr)⟩
        cases hq'
        exact hw.put_swapOuter hpipe hc hh hk hq
      | error err =>
        exact ⟨fun q' hq' => (by cases hq'), fun _ _ => hw.swapOuter_of_error hh hq⟩
    | inner =>
      dsimp only
      cases hq : p.swapInner pipe.owner (w.component pipe.owner).host body x with
      | ok q =>
        refine ⟨fun q' hq' => ?_, fun err herr => (by cases herr)⟩
        cases hq'
        exact hw.put_swapInner hpipe hc hh hk (by rw [hparent]; exact hconnected) hq
      | error err =>
        exact ⟨fun q' hq' => (by cases hq'), fun _ _ => hw.swapInner_of_error hq⟩
  · -- a host that was removed from its document is not swapped
    rw [if_neg hconnected]
    refine ⟨fun q' hq' => (by cases hq'), fun _ _ => ?_⟩
    have hnone : host.parent = none := by
      simpa [Host.connected] using hconnected
    cases k.config.swap with
    | outer => simp [View.swapOuter, replaceable, hparent, hnone]
    | inner => simp [View.swapInner, hparent, hnone]

/-- `put` after an exchange that ended without a response to swap in. -/
theorem put_ended (hw : ({ w with transport } : View).Depicts n m p)
    (hpipe : w.pipeline s = some pipe) (hc : pipe.owner < m)
    (hh : (w.component pipe.owner).host < n) {k : Component}
    (hk : p.component? pipe.owner = some k) (result : Except SubmitError Nat) :
    (w.put s pipe transport (w.change pipe.owner (.ended none))).Depicts n m
      (p.conclude s pipe.owner result) := by
  have hstill : (w.put s pipe transport { w.still pipe.owner with stage := pipe.stage }).Depicts n m
      p := by
    rwa [put_still hpipe]
  have hover := hstill.put_conclude hc hh rfl rfl hk result
  rwa [settle_stage] at hover

theorem put_receive (hw : ({ w with transport } : View).Depicts n m p)
    (hpipe : w.pipeline s = some pipe) (hc : pipe.owner < m)
    (hh : (w.component pipe.owner).host < n) {k : Component}
    (hk : p.component? pipe.owner = some k) (hs : p.Exchanging pipe.owner s) (payload : Payload)
    (outcome : Outcome) :
    (w.put s pipe transport
      (w.change pipe.owner (.ofProgress payload (.finished outcome)))).Depicts n m
      ((p.receive pipe.owner payload outcome).resume s pipe.owner) := by
  unfold Page.receive
  cases outcome with
  | error e => exact hw.put_ended hpipe hc hh hk _
  | ok response =>
    simp only [Finding.ofProgress]
    cases response.accept with
    | error e => exact hw.put_ended hpipe hc hh hk _
    | ok response =>
      obtain ⟨hswap, hfail⟩ := hw.put_applyResponse hpipe hc hh hk response.body ⟨payload.encode⟩
      dsimp only
      cases hq : p.applyResponse pipe.owner response.body ⟨payload.encode⟩ with
      | error err =>
        -- a failed swap changes nothing
        have hnone : w.change pipe.owner (.ended (some (response.body, ⟨payload.encode⟩))) =
            w.change pipe.owner (.ended none) := by
          simp only [change, hfail err hq]
        rw [hnone]
        exact hw.put_ended hpipe hc hh hk _
      | ok q =>
        obtain ⟨k', hk', -⟩ := (applyResponse_course hs hq).mounted id hk
        have hover := (hswap q hq).put_conclude hc hh (swap_host _ _) (swap_config _ _) hk'
          (.ok payload.size)
        rwa [settle_stage] at hover

/-- `put` after `pollCall`. -/
theorem put_pollCall (hw : w.Depicts n m p) (hpipe : w.pipeline s = some pipe)
    (hc : pipe.owner < m) (hh : (w.component pipe.owner).host < n) {k : Component}
    (hk : p.component? pipe.owner = some k) (hs : p.Exchanging pipe.owner s) (call : Call)
    (payload : Payload) :
    (w.put s pipe (w.transport.pollFinding call payload).1
      (w.change pipe.owner (w.transport.pollFinding call payload).2)).Depicts n m
      ((p.pollCall pipe.owner call payload).resume s pipe.owner) := by
  unfold Page.pollCall
  rw [MockTransport.pollFinding, hw.transport]
  rcases hpoll : p.transport.poll call with ⟨transport, call' | outcome⟩
  · have hask := hw.ask transport
    rw [← put_still hpipe transport] at hask
    exact hask.put_stage (.awaiting call' payload) Nat.zero_lt_one
  · exact (hw.ask transport).put_receive hpipe hc hh hk hs payload outcome

/-- `poll` preserves `Depicts`. -/
theorem poll (hw : w.Depicts n m p) (hclosed : w.Closed n m) (hp : p.InStep)
    (s : PipelineId) : (w.poll s).Depicts n m (p.poll s) := by
  cases hpipe : p.pipelines[s]? with
  | none =>
    have hnone : w.pipeline s = none := by
      rw [hw.pipeline, hpipe]
      rfl
    rw [Page.poll_of_none hpipe, View.poll_of_none hnone]
    exact hw
  | some pipe =>
    have hview : w.pipeline s = some (p.pipelineView pipe) := by
      rw [hw.pipeline, hpipe]
      rfl
    unfold Page.poll
    rw [hpipe]
    dsimp only
    by_cases ha : pipe.aborted = true
    · have hnow : (p.clockDropping pipe.stage).now = p.clock.now := by
        unfold clockDropping
        split
        · exact ManualClock.now_release _ _
        · rfl
      rw [if_pos ha, dropAborted_eq, poll_of_stop hview (.inl ha)]
      exact (hw.setStage hview .finished (by decide)).aside _ hnow p.notices p.woken p.spawned
    have haborted : pipe.aborted = false := by simpa using ha
    rw [if_neg ha]
    by_cases hfinished : pipe.stage = .finished
    · have hstop : (p.pipelineView pipe).stage = .finished := by
        simp only [pipelineView, hfinished, stageView]
      rw [poll_of_stop hview (.inr hstop), ← hstop, ← hview, Function.update_eq_self, hfinished]
      exact hw
    -- a live pipeline belongs to an old component, which is present
    have hopen : pipe.isOpen = true := by simp [Pipeline.isOpen]
    obtain ⟨hc, hh⟩ := hclosed s _ hview haborted ((p.isOpen_iff pipe).mp hopen)
    obtain ⟨k, hk⟩ := Option.isSome_iff_exists.mp (hp.owned s pipe hpipe hopen)
    have hexchanging (hex : pipe.stage.isExchange = true) : p.Exchanging pipe.owner s :=
      ⟨pipe, hpipe, rfl, haborted, hex⟩
    have hask (v : MockTransport) : (p.pipelineView pipe).ask v =
        (PipelineView.mk pipe.owner (p.stageView pipe.stage) false).ask v := by
      rw [pipelineView, haborted]
    rw [poll_of_some hview, hask]
    cases hstage : pipe.stage with
    | finished => exact absurd hstage hfinished
    | accepted f payload =>
      have hs := hexchanging (by rw [hstage]; rfl)
      unfold firstExchange
      cases payload with
      | error e => exact hw.put_ended hview hc hh hk _
      | ok payload =>
        simp only [stageView, Except.bind]
        cases p.requestOf f payload with
        | error e => exact hw.put_ended hview hc hh hk _
        | ok request => exact hw.put_pollCall hview hc hh hk hs (.unsent request) payload
    | awaiting call payload =>
      exact hw.put_pollCall hview hc hh hk (hexchanging (by rw [hstage]; rfl)) call payload
    | settling sleep =>
      have hstill : (w.put s (p.pipelineView pipe) w.transport
          { w.still (p.pipelineView pipe).owner with
            stage := (p.pipelineView pipe).stage }).Depicts n m p := by
        rw [put_still hview]
        exact hw
      have hover := hstill.put_settle hc hh rfl hk sleep
      rwa [settle_stage] at hover

end Depicts

/-! ## Runs -/

/-- `poll` preserves `Closed`. -/
theorem Closed.poll {w : View} {n m : Nat} (h : w.Closed n m) (s : PipelineId) :
    (w.poll s).Closed n m := by
  intro t pipe' hpipe' ha hstage
  by_cases hts : t = s
  · subst hts
    cases hpipe : w.pipeline t with
    | none =>
      rw [poll_of_none hpipe, hpipe] at hpipe'
      cases hpipe'
    | some pipe =>
      rw [poll_pipeline_self hpipe] at hpipe'
      cases hpipe'
      have hgoes : pipe.stage ≠ .finished := by
        intro hfinished
        rw [PipelineView.ask_of_stop (.inr hfinished)] at hstage
        exact hstage rfl
      rw [poll_component_host]
      exact h t pipe hpipe ha hgoes
  · rw [poll_pipeline_of_ne hts] at hpipe'
    rw [poll_component_host]
    exact h t pipe' hpipe' ha hstage

namespace Depicts

open Page

variable {w : View} {n m : Nat} {p : Page}

/-- A list of polls preserves `Depicts`. -/
theorem polls (hw : w.Depicts n m p) (hclosed : w.Closed n m) (hp : p.Visited)
    (l : List PipelineId) :
    (l.foldl View.poll w).Depicts n m (l.foldl Page.poll p) := by
  induction l generalizing w p with
  | nil => exact hw
  | cons s rest ih =>
    have hpolled : Course (RunScope p.hosts.length) p (p.poll s) :=
      polls_course [s] (Nat.le_refl _)
    exact ih (hw.poll hclosed hp.inStep s) (hclosed.poll s)
      (hp.trans (hpolled.mono fun _ _ => trivial))

theorem run (hw : w.Depicts n m p) (hclosed : w.Closed n m) (hp : p.Visited) :
    ((p.woken ++ p.spawned).foldl View.poll w).Depicts n m p.run :=
  (hw.aside _ rfl p.notices [] []).polls hclosed
    (hp.trans (.move (.clear p) trivial)) (p.woken ++ p.spawned)

/-- `sweep` preserves `Depicts`. -/
theorem sweep (hw : w.Depicts n m p) : w.Depicts n m p.sweep := by
  refine (sweep_course p).keeps (I := w.Depicts n m) (fun kind q r hkind move hq => ?_) hw
  cases move with
  | @drop _ c k hk hheld =>
    have hforms := hq.forms (formsWithout_data q k.listener)
    refine hforms.of_grown (.refl Form.SameData.refl _) (.refl (fun _ => rfl) _) hforms.formsKnown
      rfl (fun d k' _ hk' => ?_) (by simp) rfl rfl rfl rfl
    rw [component?_of_set_none (p := q) rfl] at hk'
    split at hk'
    · cases hk'
    · exact hk'
  | _ => exact hkind.elim

/-- `deliver` preserves `Depicts`. -/
theorem deliver (hw : w.Depicts n m p) (d : DeferredId) (outcome : Outcome) :
    (w.deliver d outcome).Depicts n m (p.settleDeferred d (.delivered outcome)) := by
  have htransport := hw.ask (w.transport.settle d (.delivered outcome))
  unfold settleDeferred
  dsimp only
  rw [← hw.transport]
  split
  · unfold wake
    split
    · exact htransport
    · exact htransport.aside _ rfl _ _ _
  · exact htransport

end Depicts

end View

end FormSwap
