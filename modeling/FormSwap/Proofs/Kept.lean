import FormSwap.Proofs.Detach
import FormSwap.Proofs.Listeners

/-!
# Components that a sweep keeps

`sweep` visits the components once, in order. This suffices, because a replacement has a larger
index than its owner: a sweep keeps exactly the components that a handle, an observer or an open
pipeline keeps, and recursively the replacements of kept components.

Main results:

- `component?_sweep`: a sweep keeps the `Kept` components unchanged, and drops all others
- `Outlives.sweep_alive`, `Outlives.keptBy`: what remains after several sweeps depends on the open
  pipelines at the end, and not on when the sweeps were
-/

namespace FormSwap.Page

/-- `p.KeptBy works c`: a handle, an observer or `works` keeps `c`, or `c` is a replacement of such
a component. -/
def KeptBy (p : Page) (works : ComponentId → Bool) (c : ComponentId) : Prop :=
  ∃ d, (p.heldByHandle d || p.heldByListener d || works d) = true ∧ p.Descendant d c

/-- `p.Kept c`: `KeptBy` with the components that have an open pipeline. -/
def Kept (p : Page) (c : ComponentId) : Prop :=
  p.KeptBy p.heldByPipeline c

/-! ## Owners of a component -/

section Holders

variable {p q : Page} {c d : ComponentId} {k : Component}

theorem heldByComponent_iff :
    p.heldByComponent c = true ↔ ∃ d k, p.component? d = some k ∧ c ∈ k.replacements := by
  simp only [heldByComponent, List.any_eq_true]
  constructor
  · rintro ⟨slot, hslot, hc⟩
    cases slot with
    | none => cases hc
    | some k =>
      obtain ⟨d, hd⟩ := List.mem_iff_getElem?.mp hslot
      exact ⟨d, k, component?_eq_some.mpr hd, by simpa using hc⟩
  · rintro ⟨d, k, hk, hc⟩
    exact ⟨some k, List.mem_of_getElem? (component?_eq_some.mp hk), by simpa using hc⟩

theorem heldByListener_iff :
    p.heldByListener c = true ↔
      ∃ (f : FormId) (form : Form), p.forms[f]? = some form ∧
        ∃ l ∈ form.listeners, l.keeps c = true := by
  simp only [heldByListener, List.any_eq_true]
  constructor
  · rintro ⟨form, hform, hl⟩
    obtain ⟨f, hf⟩ := List.mem_iff_getElem?.mp hform
    exact ⟨f, form, hf, hl⟩
  · rintro ⟨f, form, hf, hl⟩
    exact ⟨form, List.mem_of_getElem? hf, hl⟩

theorem heldByPipeline_iff :
    p.heldByPipeline c = true ↔
      ∃ (s : PipelineId) (pipe : Pipeline), p.pipelines[s]? = some pipe ∧
        pipe.isOpen = true ∧ pipe.owner = c := by
  simp only [heldByPipeline, List.any_eq_true, Bool.and_eq_true, beq_iff_eq]
  constructor
  · rintro ⟨pipe, hpipe, hopen, hown⟩
    obtain ⟨s, hs⟩ := List.mem_iff_getElem?.mp hpipe
    exact ⟨s, pipe, hs, hopen, hown⟩
  · rintro ⟨s, pipe, hs, hopen, hown⟩
    exact ⟨pipe, List.mem_of_getElem? hs, hopen, hown⟩

/-- Removing the listener of a component removes no observer. -/
theorem heldByListener_of_released (h : p.Wired) (hk : p.component? c = some k)
    (hforms : q.forms = p.formsWithout k.listener) (d : ComponentId) :
    q.heldByListener d = p.heldByListener d := by
  cases hl : k.listener with
  | none =>
    rw [hl] at hforms
    simp only [heldByListener, hforms, formsWithout]
  | some ref =>
    rw [hl] at hforms
    have hrelease : q.forms = p.forms.modify ref.form (Form.release ref.id) := hforms
    -- the listener with the id of the handle is the component's own
    have hlistens : p.Listens c ref := (h.handle c ref).mpr (by simp [listenerOf, hk, hl])
    obtain ⟨own, hown, hmem⟩ := hlistens
    rw [Bool.eq_iff_iff, heldByListener_iff, heldByListener_iff]
    constructor
    · rintro ⟨f, form', hform', l, hl', hkeeps⟩
      rw [hrelease, List.getElem?_modify] at hform'
      obtain ⟨form, hform, rfl⟩ := Option.map_eq_some_iff.mp hform'
      refine ⟨f, form, hform, l, ?_, hkeeps⟩
      split at hl'
      · exact (List.mem_filter.mp hl').1
      · exact hl'
    · rintro ⟨f, form, hform, l, hl', hkeeps⟩
      by_cases hf : ref.form = f
      · subst hf
        rw [hown] at hform
        cases hform
        have hid : l.id ≠ ref.id := by
          intro hid
          cases (h.numbered _ own hown).eq_of_id hl' hmem hid
          cases hkeeps
        refine ⟨ref.form, own.release ref.id, ?_, l, ?_, hkeeps⟩
        · rw [hrelease, List.getElem?_modify_eq, hown]
          rfl
        · exact List.mem_filter.mpr ⟨hl', by simpa using hid⟩
      · exact ⟨f, form, by rw [hrelease, List.getElem?_modify_ne _ _ hf, hform], l, hl', hkeeps⟩

end Holders

/-! ## One sweep -/

/-- `SweptTo p x n`: `x` is `p` after the components below `n` were swept. -/
structure SweptTo (p x : Page) (n : Nat) : Prop where
  components : ∀ c k, x.component? c = some k ↔ p.component? c = some k ∧ (c < n → p.Kept c)
  handles : x.handles = p.handles
  pipelines : x.pipelines = p.pipelines
  listeners : ∀ c, x.heldByListener c = p.heldByListener c

section Sweep

variable {p x : Page} {c : ComponentId} {k : Component} {n : Nat}

/-- `held` of the next component is `Kept`, because its owner was swept before. -/
theorem SweptTo.held_iff (h : SweptTo p x n) (hp : p.Ordered) :
    x.held n = true ↔ p.Kept n := by
  have hanchored (d : ComponentId) :
      (x.heldByHandle d || x.heldByListener d || x.heldByPipeline d) =
        (p.heldByHandle d || p.heldByListener d || p.heldByPipeline d) := by
    simp only [heldByHandle, heldByPipeline, h.handles, h.pipelines, h.listeners]
  unfold held
  rw [hanchored, Bool.or_eq_true, heldByComponent_iff]
  constructor
  · rintro (hheld | ⟨d, k, hk, hn⟩)
    · exact ⟨n, hheld, .refl⟩
    · obtain ⟨hk, hkept⟩ := (h.components d k).mp hk
      obtain ⟨e, he, hdescends⟩ := hkept (hp d k hk n hn).1
      exact ⟨e, he, hdescends.tail ⟨k, hk, hn⟩⟩
  · rintro ⟨e, he, hdescends⟩
    cases hdescends with
    | refl => exact .inl he
    | @tail d _ hed hedge =>
      obtain ⟨k, hk, hn⟩ := hedge
      exact .inr ⟨d, k, (h.components d k).mpr ⟨hk, fun _ => ⟨e, he, hed⟩⟩, hn⟩

/-- `sweepOne` extends `SweptTo` by one component. -/
theorem SweptTo.sweepOne (h : SweptTo p x n) (hp : p.Ordered) (hx : x.Wired) :
    SweptTo p (x.sweepOne n) (n + 1) := by
  have hheld := h.held_iff hp
  have hnext (c : ComponentId) :
      (c < n + 1 → p.Kept c) ↔ (c < n → p.Kept c) ∧ (c = n → p.Kept c) := by
    simp only [Nat.lt_succ_iff_lt_or_eq, or_imp]
  unfold Page.sweepOne
  split
  · -- it is held, so it stays
    rename_i hn
    refine ⟨fun c k => ?_, h.handles, h.pipelines, h.listeners⟩
    rw [h.components, hnext, ← and_assoc, iff_self_and]
    exact fun _ hcn => hcn ▸ hheld.mp hn
  · -- nothing holds it, so it is dropped with its listener
    rename_i hn
    have hgone : ¬ p.Kept n := fun hkept => hn (hheld.mpr hkept)
    cases hk : x.component? n with
    | none =>
      rw [dropComponent_of_none hk]
      refine ⟨fun c k => ?_, h.handles, h.pipelines, h.listeners⟩
      rw [h.components, hnext, ← and_assoc, iff_self_and, ← h.components]
      intro hc hcn
      rw [hcn, hk] at hc
      cases hc
    | some kn =>
      rw [dropComponent_eq hk]
      refine ⟨fun c k => ?_, h.handles, h.pipelines, fun c => ?_⟩
      · rw [component?_of_set_none (p := x) rfl, hnext]
        split
        · rename_i hcn
          exact iff_of_false nofun fun hkept => hgone (hcn ▸ hkept.2.2 hcn.symm)
        · rename_i hcn
          rw [h.components, ← and_assoc, iff_self_and]
          exact fun _ heq => absurd heq.symm hcn
      · exact (heldByListener_of_released hx hk rfl c).trans (h.listeners c)

theorem SweptTo.of_range (hp : p.Visited) (n : Nat) :
    SweptTo p ((List.range n).foldl Page.sweepOne p) n ∧
      ((List.range n).foldl Page.sweepOne p).Visited := by
  induction n with
  | zero => exact ⟨⟨fun c k => by simp, rfl, rfl, fun _ => rfl⟩, hp⟩
  | succ n ih =>
    obtain ⟨hswept, hvisited⟩ := ih
    rw [List.range_succ, List.foldl_append, List.foldl_cons, List.foldl_nil]
    refine ⟨hswept.sweepOne hp.ordered hvisited.wired, hvisited.trans ?_⟩
    exact (sweepOne_course _ n).mono fun _ _ => trivial

theorem sweep_sweptTo (hp : p.Visited) : SweptTo p p.sweep p.components.length :=
  (SweptTo.of_range hp _).1

theorem Visited.sweep (hp : p.Visited) : p.sweep.Visited :=
  (SweptTo.of_range hp _).2

/-- `sweep` keeps exactly the `Kept` components, unchanged. -/
theorem component?_sweep (hp : p.Visited) :
    p.sweep.component? c = some k ↔ p.component? c = some k ∧ p.Kept c := by
  rw [(sweep_sweptTo hp).components]
  exact and_congr_right fun hk => ⟨fun hkept => hkept (lt_of_component? hk), fun hkept _ => hkept⟩

/-- A component that a sweep keeps is `Kept` after it. -/
theorem kept_of_sweep (hp : p.Visited) (hc : (p.sweep.component? c).isSome = true) :
    p.sweep.Kept c := by
  obtain ⟨k, hk⟩ := Option.isSome_iff_exists.mp hc
  obtain ⟨-, d, hd, hdescends⟩ := (component?_sweep hp).mp hk
  have hswept := sweep_sweptTo hp
  refine ⟨d, ?_, ?_⟩
  · rwa [heldByHandle, heldByPipeline, hswept.handles, hswept.pipelines, hswept.listeners]
  · clear hc hk
    induction hdescends with
    | refl => exact .refl
    | @tail e _ hde hedge ih =>
      obtain ⟨ke, hke, hr⟩ := hedge
      exact ih.tail ⟨ke, (component?_sweep hp).mpr ⟨hke, d, hd, hde⟩, hr⟩

/-- A course does not reopen a pipeline. -/
theorem Course.isOpen {S : Kind → Prop} {q : Page} (h : Course S p q) {s : PipelineId}
    {pipe pipe' : Pipeline} (hpipe : p.pipelines[s]? = some pipe)
    (hpipe' : q.pipelines[s]? = some pipe') (hopen : pipe'.isOpen = true) :
    pipe.isOpen = true ∧ pipe.owner = pipe'.owner := by
  obtain ⟨sub'', hsub'', honward⟩ := h.pipelineKept s pipe hpipe
  rw [hpipe'] at hsub''
  cases hsub''
  refine ⟨?_, honward.owner.symm⟩
  have hrank := honward.rank
  unfold Pipeline.isOpen at hopen ⊢
  cases hstage' : pipe'.stage with
  | finished => simp [hstage'] at hopen
  | accepted | awaiting | settling =>
    cases hstage : pipe.stage with
    | finished => simp [hstage, hstage', Stage.rank] at hrank
    | accepted | awaiting | settling => rfl

theorem heldByPipeline_of_course {S : Kind → Prop} {q : Page} (h : Course S p q)
    (hlen : q.pipelines.length = p.pipelines.length)
    (hc : q.heldByPipeline c = true) : p.heldByPipeline c = true := by
  obtain ⟨s, pipe', hpipe', hopen, rfl⟩ := heldByPipeline_iff.mp hc
  have hs : s < p.pipelines.length := hlen ▸ (List.getElem?_eq_some_iff.mp hpipe').1
  have hpipe := List.getElem?_eq_getElem hs
  exact heldByPipeline_iff.mpr ⟨s, _, hpipe, h.isOpen hpipe hpipe' hopen⟩

end Sweep

/-! ## Many sweeps -/

/-- `Outlives p x`: `x` is later than `p`, with the same handles, observers and replacements of old
components. Components may have been dropped and created. -/
structure Outlives (p x : Page) : Prop where
  components : ∀ c k', c < p.components.length → x.component? c = some k' →
    ∃ k, p.component? c = some k ∧
      ∀ r, r < p.components.length → (r ∈ k'.replacements ↔ r ∈ k.replacements)
  handles : x.handles = p.handles
  listeners : ∀ c, x.heldByListener c = p.heldByListener c

namespace Outlives

variable {p x y : Page} {works : ComponentId → Bool} {c : ComponentId}

theorem refl (p : Page) : Outlives p p :=
  ⟨fun _ k' _ hk' => ⟨k', hk', fun _ _ => Iff.rfl⟩, rfl, fun _ => rfl⟩

theorem sweep (h : Outlives p x) (hx : x.Visited) : Outlives p x.sweep := by
  have hswept := sweep_sweptTo hx
  refine ⟨fun c k' hc hk' => ?_, hswept.handles.trans h.handles,
    fun c => (hswept.listeners c).trans (h.listeners c)⟩
  exact h.components c k' hc ((hswept.components c k').mp hk').1

/-- A component that is kept to the end is kept by a sweep before it, with all its owners. -/
theorem sweep_alive (h : Outlives p x) (hp : p.Ordered) (hx : x.Visited)
    (hworks : ∀ d, works d = true → x.heldByPipeline d = true)
    (halive : ∀ c, (p.component? c).isSome = true → p.KeptBy works c →
      (x.component? c).isSome = true)
    (hc : (p.component? c).isSome = true) (hkept : p.KeptBy works c) :
    (x.sweep.component? c).isSome = true := by
  obtain ⟨d, hd, hdescends⟩ := hkept
  have hanchored : (x.heldByHandle d || x.heldByListener d || x.heldByPipeline d) = true := by
    rw [heldByHandle, h.handles, h.listeners]
    simp only [heldByHandle, Bool.or_eq_true] at hd ⊢
    rcases hd with hheld | hw
    · exact .inl hheld
    · exact .inr (hworks d hw)
  -- all components on the path are kept to the end, so each is present to keep the next one
  have hpath : x.Descendant d c := by
    clear hc
    induction hdescends with
    | refl => exact .refl
    | @tail e r hde hedge ih =>
      obtain ⟨k, hk, hr⟩ := hedge
      obtain ⟨k', hk'⟩ := Option.isSome_iff_exists.mp
        (halive e (by rw [hk]; rfl) ⟨d, hd, hde⟩)
      obtain ⟨k₀, hk₀, hsame⟩ := h.components e k' (lt_of_component? hk) hk'
      rw [hk] at hk₀
      cases hk₀
      exact ih.tail ⟨k', hk', (hsame r (hp e k hk r hr).2).mpr hr⟩
  obtain ⟨k', hk'⟩ := Option.isSome_iff_exists.mp (halive c hc ⟨d, hd, hdescends⟩)
  rw [(component?_sweep hx).mpr ⟨hk', d, hanchored, hpath⟩]
  rfl

/-- An old component that is `Kept` on `x` is `KeptBy` the handles of `p` and the open pipelines of
`x`. -/
theorem keptBy (h : Outlives p x) (hx : x.Ordered) (hc : c < p.components.length)
    (hkept : x.Kept c) : p.KeptBy x.heldByPipeline c := by
  obtain ⟨d, hd, hdescends⟩ := hkept
  refine ⟨d, ?_, ?_⟩
  · rwa [heldByHandle, h.handles, h.listeners] at hd
  · -- the owner of an old component is older
    induction hdescends with
    | refl => exact .refl
    | @tail e r _ hedge ih =>
      obtain ⟨ke, hke, hr⟩ := hedge
      have he : e < p.components.length := Nat.lt_trans (hx e ke hke r hr).1 hc
      obtain ⟨k₀, hk₀, hsame⟩ := h.components e ke he hke
      exact (ih he).tail ⟨k₀, hk₀, (hsame r hc).mp hr⟩

theorem of_same (h : Outlives p x) (hcomponents : y.components = x.components)
    (hhandles : y.handles = x.handles) (hforms : y.forms = x.forms) : Outlives p y where
  components c k' hc hk' := h.components c k' hc (by rwa [component?, hcomponents] at hk')
  handles := hhandles.trans h.handles
  listeners c := by
    rw [heldByListener, hforms]
    exact h.listeners c

/-- `Outlives` is preserved by a change of a component that may adopt new replacements. -/
theorem of_modify (h : Outlives p x) {d : ComponentId} {change : Component → Component}
    (hc : y.components = x.components.modify d (Option.map change))
    (hchange : ∀ k r, r < p.components.length →
      (r ∈ (change k).replacements ↔ r ∈ k.replacements))
    (hhandles : y.handles = x.handles)
    (hlisteners : ∀ c, y.heldByListener c = x.heldByListener c) : Outlives p y where
  components c k' hc' hk' := by
    rw [component?_of_modify hc] at hk'
    split at hk'
    · obtain ⟨k₁, hk₁, rfl⟩ := Option.map_eq_some_iff.mp hk'
      obtain ⟨k, hk, hsame⟩ := h.components c k₁ hc' hk₁
      exact ⟨k, hk, fun r hr => (hchange k₁ r hr).trans (hsame r hr)⟩
    · exact h.components c k' hc' hk'
  handles := hhandles.trans h.handles
  listeners c := (hlisteners c).trans (h.listeners c)

end Outlives

/-! ## Moves that preserve the owners -/

section Spared

variable {p q x y : Page} {c : ComponentId}

theorem heldByListener_of_modify {f : FormId} {change : Form → Form}
    (hq : q.forms = p.forms.modify f change)
    (hchange : ∀ form, ((change form).listeners.any fun l => l.keeps c) =
      form.listeners.any fun l => l.keeps c) : q.heldByListener c = p.heldByListener c := by
  rw [heldByListener, heldByListener, hq]
  generalize p.forms = forms at hq
  clear hq
  induction forms generalizing f with
  | nil => simp
  | cons form rest ih =>
    cases f with
    | zero => simp [hchange]
    | succ f => simp [ih]

/-- The listener of a component keeps no component. -/
theorem heldByListener_of_installed {f : FormId} {id : Nat} {d : ComponentId}
    (hq : q.forms = p.formsWith f ⟨id, .component d⟩) :
    q.heldByListener c = p.heldByListener c :=
  heldByListener_of_modify hq fun form => by simp [Listener.keeps]

/-- New forms have no observers. -/
theorem heldByListener_of_append {new : List Form} (hq : q.forms = p.forms ++ new)
    (hnew : ∀ form ∈ new, form.listeners = []) : q.heldByListener c = p.heldByListener c := by
  have hnone : (new.any fun form => form.listeners.any fun l => l.keeps c) = false := by
    rw [List.any_eq_false]
    intro form hform
    simp [hnew form hform]
  rw [heldByListener, hq, List.any_append, hnone, Bool.or_false]
  rfl

private theorem addFragments_heldByListener (d : DocumentId) (p : Page)
    (l : List Markup.Fragment) :
    (addFragments d p l).1.heldByListener c = p.heldByListener c := by
  induction l generalizing p with
  | nil => rfl
  | cons fragment rest ih =>
    cases fragment with
    | text s => exact ih p
    | host tag inner closed =>
      obtain ⟨new, hnew, hnil⟩ := readContent_forms p (String.ofList inner)
      exact (ih _).trans (heldByListener_of_append hnew hnil)

/-- `heldByListener` is preserved by a `TreeEdit` without observers. -/
theorem TreeEdit.heldByListener_eq (e : TreeEdit p q false) :
    q.heldByListener c = p.heldByListener c := by
  cases e with
  | addDocument | dropDocument | append | remove | dispatchDocument => rfl
  | appendMarkup d markup => exact addFragments_heldByListener d p _
  | newHost attributes form markup rejecting =>
    cases markup with
    | some markup =>
      obtain ⟨new, hnew, hnil⟩ := readContent_forms p markup
      exact heldByListener_of_append (p := p) hnew hnil
    | none => cases form <;> rfl
  | setAttribute _ hq =>
    unfold Page.setAttribute at hq
    split at hq <;> cases hq
    rfl
  | removeAttribute _ hq =>
    unfold Page.removeAttribute at hq
    split at hq <;> cases hq
    rfl
  | @setInnerHtml _ _ markup hq =>
    unfold Page.setInnerHtml at hq
    split at hq <;> cases hq
    obtain ⟨new, hnew, hnil⟩ := readContent_forms p markup
    exact heldByListener_of_append (p := p) hnew hnil
  | setOuterHtml hr =>
    unfold Page.setOuterHtml at hr
    split at hr
    · cases hr
    split at hr
    · cases hr
    rename_i d _
    split at hr
    · cases hr
    split at hr <;> cases hr
    exact addFragments_heldByListener d p _
  | dispatchHost hq =>
    unfold Page.dispatchHost at hq
    split at hq
    · cases hq
      rfl
    split at hq
    · cases hq
    split at hq <;> cases hq <;> rfl
  | addForm data =>
    have hforms : (p.addForm data).1.forms = p.forms ++ [{ data := data }] := rfl
    exact heldByListener_of_append hforms (by simp)
  | addField | setField => exact heldByListener_of_modify rfl fun _ => rfl

/-- `SparingScope components` has the kinds of moves that preserve handles, observers and
replacements, if the components from `components` on are new. -/
def SparingScope (components : Nat) : Kind → Prop
  | .tree watch => watch = false
  | .adopt _ r => components ≤ r
  | .create _ | .bind _ | .unbind _ | .replace _ | .drop _ | .progress _ | .finish _
  | .dropAborted _ | .clear | .note => True
  | _ => False

theorem PollScope.sparing {n m m' : Nat} {s : PipelineId} {k : Kind} (hm : m ≤ m')
    (h : PollScope n m' c s k) : SparingScope m k := by
  cases k with
  | tree watch => exact h
  | adopt d r => exact Nat.le_trans hm h.2
  | _ => trivial

theorem Outlives.move {kind : Kind} (h : Outlives p x) (move : Move kind x y)
    (hkind : SparingScope p.components.length kind)
    (hle : p.components.length ≤ x.components.length) (hx : x.Wired) : Outlives p y := by
  cases move with
  | tree e =>
    cases hkind
    obtain ⟨_, _, _, rfl⟩ := e.kept.only
    exact ⟨h.components, h.handles, fun c => e.heldByListener_eq.trans (h.listeners c)⟩
  | create =>
    refine ⟨fun c k' hc hk' => h.components c k' hc ?_, h.handles, h.listeners⟩
    have hold : c < x.components.length := Nat.lt_of_lt_of_le hc hle
    rwa [component?_of_append (p := x) rfl, if_neg (Nat.ne_of_lt hold)] at hk'
  | bind | rebind =>
    exact h.of_modify rfl (fun _ _ _ => Iff.rfl) rfl fun c => heldByListener_of_installed rfl
  | unbind hk | replace hk =>
    exact h.of_modify rfl (fun _ _ _ => Iff.rfl) rfl
      fun c => heldByListener_of_released hx hk rfl c
  | @adopt _ _ r =>
    -- the adopted replacement is new
    refine h.of_modify rfl (fun k r' hr' => ?_) rfl fun _ => rfl
    have hne : r' ≠ r := Nat.ne_of_lt (Nat.lt_of_lt_of_le hr' hkind)
    simp [Component.replacedBy, hne]
  | drop hk =>
    refine ⟨fun c k' hc hk' => h.components c k' hc ?_, h.handles,
      fun c => (heldByListener_of_released hx hk rfl c).trans (h.listeners c)⟩
    rw [component?_of_set_none (p := x) rfl] at hk'
    split at hk'
    · cases hk'
    · exact hk'
  | finish => exact h.of_modify rfl (fun _ _ _ => Iff.rfl) rfl fun _ => rfl
  | ask | await | sleep | finishGone | dropAborted | clear | note => exact h.of_same rfl rfl rfl
  | _ => exact hkind.elim

theorem Outlives.course (h : Outlives p x) (hxy : Course (SparingScope p.components.length) x y)
    (hle : p.components.length ≤ x.components.length) (hx : x.Visited) : Outlives p y := by
  have hall : Outlives p y ∧ p.components.length ≤ y.components.length ∧ y.Visited := by
    refine hxy.keeps (I := fun z => Outlives p z ∧ p.components.length ≤ z.components.length ∧
      z.Visited) (fun kind z z' hkind move ⟨hz, hlez, hvisited⟩ => ?_) ⟨h, hle, hx⟩
    exact ⟨hz.move move hkind hlez hvisited.wired, Nat.le_trans hlez move.components_le,
      hvisited.trans (.move move trivial)⟩
  exact hall.1

theorem polls_sparing {m : Nat} (l : List PipelineId) (hm : m ≤ p.components.length) :
    Course (SparingScope m) p (l.foldl poll p) := by
  induction l generalizing p with
  | nil => exact .refl p
  | cons s rest ih =>
    have hpolled : Course (SparingScope m) p (p.poll s) := by
      cases hpipe : p.pipelines[s]? with
      | none =>
        rw [poll_of_none hpipe]
        exact .refl p
      | some pipe => exact (poll_course hpipe).mono fun _ hk => hk.sparing hm
    exact hpolled.trans (ih (Nat.le_trans hm hpolled.components_le))

end Spared

end FormSwap.Page

namespace FormSwap

/-! ## Components after some actions -/

/-- `a.isSparing`: the action is `advance`, `deliver` or `run`. -/
def Action.isSparing : Action → Bool
  | .advance _ | .deliver _ _ | .run => true
  | _ => false

namespace Page

variable {p q : Page} {c : ComponentId} {a : Action}

/-- `act` of a sparing action drops no component before its sweep. -/
theorem Outlives.act (h : Outlives p q) (hq : q.Visited)
    (hle : p.components.length ≤ q.components.length) (ha : a.isSparing = true) :
    Outlives p (q.act a).1 ∧
      (∀ c, (q.component? c).isSome = true → ((q.act a).1.component? c).isSome = true) ∧
      (q.act a).1.pipelines.length = q.pipelines.length := by
  cases a with
  | advance span =>
    obtain ⟨woken, hadvance⟩ := advance_eq q span
    have hact : (q.act (.advance span)).1 = _ := hadvance
    rw [hact]
    exact ⟨h.of_same rfl rfl rfl, fun _ hc => hc, rfl⟩
  | deliver d outcome =>
    obtain ⟨woken, hsettle⟩ := settleDeferred_eq q d (.delivered outcome)
    have hact : (q.act (.deliver d outcome)).1 = _ := hsettle
    rw [hact]
    exact ⟨h.of_same rfl rfl rfl, fun _ hc => hc, rfl⟩
  | run =>
    have hrun : Course (SparingScope p.components.length) q q.run :=
      .trans (.move (.clear q) trivial) (polls_sparing _ hle)
    refine ⟨h.course hrun hle hq, fun c hc => ?_, hrun.length_pipelines fun _ => id⟩
    obtain ⟨k, hk⟩ := Option.isSome_iff_exists.mp hc
    obtain ⟨k', hk', -⟩ := (run_course q).mounted id hk
    exact Option.isSome_iff_exists.mpr ⟨k', hk'⟩
  | _ => cases ha

theorem length_pipelines_of_sparing {actions : List Action}
    (ha : ∀ a ∈ actions, a.isSparing = true) (hq : q.Visited) :
    (q.performAll actions).pipelines.length = q.pipelines.length := by
  induction actions generalizing q with
  | nil => rfl
  | cons a rest ih =>
    have hone : (q.perform a).1.pipelines.length = q.pipelines.length := by
      unfold perform
      split
      · show (q.act a).1.sweep.pipelines.length = q.pipelines.length
        rw [sweep_pipelines]
        exact ((Outlives.refl q).act hq (Nat.le_refl _) (ha a (by simp))).2.2
      · rfl
    have hvisited : (q.perform a).1.Visited :=
      hq.trans ((perform_course q a).mono fun _ _ => trivial)
    exact (ih (fun b hb => ha b (by simp [hb])) hvisited).trans hone

/-- A component that is kept to the end is present all the time. -/
theorem Outlives.alive (h : Outlives p q) (works : ComponentId → Bool) (hp : p.Ordered)
    (hq : q.Visited) (hle : p.components.length ≤ q.components.length) {actions : List Action}
    (ha : ∀ a ∈ actions, a.isSparing = true)
    (hworks : ∀ d, works d = true → (q.performAll actions).heldByPipeline d = true)
    (halive : ∀ c, (p.component? c).isSome = true → p.KeptBy works c →
      (q.component? c).isSome = true) :
    Outlives p (q.performAll actions) ∧
      ∀ c, (p.component? c).isSome = true → p.KeptBy works c →
        ((q.performAll actions).component? c).isSome = true := by
  induction actions generalizing q with
  | nil => exact ⟨h, halive⟩
  | cons a rest ih =>
    have hrest : ∀ b ∈ rest, b.isSparing = true := fun b hb => ha b (by simp [hb])
    by_cases hoffers : q.offers a = true
    · obtain ⟨hact, hthere, hlen⟩ := h.act hq hle (ha a (by simp))
      have hcourse : Course (fun _ => True) q (q.act a).1 :=
        (act_course hoffers).mono fun _ _ => trivial
      have hvisited : (q.act a).1.Visited := hq.act hoffers
      have hend : q.performAll (a :: rest) = (q.act a).1.sweep.performAll rest := by
        rw [← perform_of_offers hoffers]
        rfl
      rw [hend] at hworks ⊢
      refine ih (hact.sweep hvisited) hvisited.sweep ?_ hrest hworks fun c hc hkept => ?_
      · have hlonger := (hcourse.trans ((sweep_course _).mono fun _ _ => trivial)).components_le
        exact Nat.le_trans hle hlonger
      · refine hact.sweep_alive hp hvisited (fun d hd => ?_)
          (fun e he hkept' => hthere e (halive e he hkept')) hc hkept
        -- a pipeline that is open at the end is open now
        have hlater : Course (fun _ => True) (q.act a).1 ((q.act a).1.sweep.performAll rest) :=
          ((sweep_course _).mono fun _ _ => trivial).trans (performAll_course _ rest)
        refine heldByPipeline_of_course hlater ?_ (hworks d hd)
        rw [length_pipelines_of_sparing hrest hvisited.sweep, sweep_pipelines]
    · -- an action that is not offered changes nothing
      have hend : q.performAll (a :: rest) = q.performAll rest := by
        have hperform : (q.perform a).1 = q := by
          unfold perform
          rw [if_neg hoffers]
        show (q.perform a).1.performAll rest = q.performAll rest
        rw [hperform]
      rw [hend] at hworks ⊢
      exact ih h hq hle hrest hworks halive

/-- On a reachable page every component is `Kept`. -/
theorem Reachable.kept (hp : p.Reachable) (hc : (p.component? c).isSome = true) : p.Kept c := by
  refine hp.keeps (I := fun q => (q.component? c).isSome = true → q.Kept c) (by rintro ⟨⟩)
    (fun q a hq ih => ?_) hc
  unfold Page.perform
  split
  · rename_i hoffers
    exact kept_of_sweep (hq.visited.act hoffers)
  · exact ih

/-- A component remains after sparing actions exactly if it is kept with the open pipelines at the
end. -/
theorem isSome_performAll_iff (hp : p.Reachable) {actions : List Action}
    (ha : ∀ a ∈ actions, a.isSparing = true) (hc : c < p.components.length) :
    ((p.performAll actions).component? c).isSome = true ↔
      (p.component? c).isSome = true ∧
        p.KeptBy (p.performAll actions).heldByPipeline c := by
  have hvisited := hp.visited
  obtain ⟨houtlives, halive⟩ := (Outlives.refl p).alive (p.performAll actions).heldByPipeline
    hvisited.ordered hvisited (Nat.le_refl _) ha (fun _ hd => hd) fun _ hd _ => hd
  refine ⟨fun hleft => ?_, fun ⟨hthere, hkept⟩ => halive c hthere hkept⟩
  have hreachable : (p.performAll actions).Reachable := hp.performAll actions
  obtain ⟨k', hk'⟩ := Option.isSome_iff_exists.mp hleft
  obtain ⟨k, hk, -⟩ := houtlives.components c k' hc hk'
  exact ⟨Option.isSome_iff_exists.mpr ⟨k, hk⟩,
    houtlives.keptBy hreachable.visited.ordered hc (hreachable.kept hleft)⟩

end Page

end FormSwap
