import FormSwap.Proofs.Update

/-!
# Ids are stable

Hosts and components keep their ids. A component stays on its host, with its configuration, and one
that was dropped does not come back.

Main results:

- `Move.origin`: a component after a move was present before, on the same host, or is new
- `Course.origin`: the same for a course
- `Course.mounted`: a component that is not dropped stays on its host
-/

namespace FormSwap

/-- `k.SameMount k'`: `k` and `k'` have the same host and the same configuration. -/
def Component.SameMount (k k' : Component) : Prop :=
  k'.host = k.host ∧ k'.config = k.config

namespace Page

/-! ## Hosts -/

/-- No move removes a host. -/
theorem Move.hosts_le {k : Kind} {p q : Page} (move : Move k p q) :
    p.hosts.length ≤ q.hosts.length := by
  cases move with
  | tree e => exact e.kept.hosts.length_le
  | mark => simp [modifyHost]
  | disconnect hk =>
    dsimp only
    split
    · simp
    · exact Nat.le_refl _
  | start | refuse | finish => simp
  | create | bind | unbind | rebind | replace | adopt | drop | ask | await | sleep | finishGone
  | dropAborted | clear | wake | advance | pollSleep | dropSleep | fault | mend | note | other =>
    exact Nat.le_refl _

theorem Course.hosts_le {S : Kind → Prop} {p q : Page} (h : Course S p q) :
    p.hosts.length ≤ q.hosts.length :=
  h.keeps (I := fun r => p.hosts.length ≤ r.hosts.length)
    (fun _ _ _ _ move ih => Nat.le_trans ih move.hosts_le) (Nat.le_refl _)

/-! ## The submitting attribute -/

section Marks

variable {p q : Page} {h h' : HostId}

theorem marked_of_kept (hkept : KeptUpTo Host.SameMark p.hosts q.hosts)
    (hh : h < p.hosts.length) : q.marked h = p.marked h := by
  obtain ⟨host', hhost', hsame⟩ := hkept h p.hosts[h] (List.getElem?_eq_getElem hh)
  simp only [marked, hhost', List.getElem?_eq_getElem hh]
  exact hsame

theorem marked_of_hosts (hq : q.hosts = p.hosts) : q.marked h = p.marked h := by
  simp only [marked, hq]

private theorem marked_of_modify (hh : h < p.hosts.length) {change : Host → Host} {on : Bool}
    (hq : q.hosts = p.hosts.modify h' change) (hchange : ∀ host, (change host).marked = on) :
    q.marked h = if h' = h then on else p.marked h := by
  simp only [marked, hq, List.getElem?_modify, List.getElem?_eq_getElem hh]
  split <;> simp [hchange]

theorem marked_of_marking (hh : h < p.hosts.length) (hw : p.fails .setAttribute = false)
    (hq : q.hosts = p.hostsMarking h') :
    q.marked h = if h' = h then true else p.marked h := by
  refine marked_of_modify hh ?_ Host.marked_mark
  simpa [hostsMarking, hw] using hq

theorem marked_of_unmarking (hh : h < p.hosts.length) (hw : p.fails .removeAttribute = false)
    (hq : q.hosts = p.hostsUnmarking h') :
    q.marked h = if h' = h then false else p.marked h := by
  refine marked_of_modify hh ?_ Host.marked_unmark
  simpa [hostsUnmarking, hw] using hq

end Marks

/-! ## Components -/

private theorem origin_of_modify {p q : Page} {c d : ComponentId} {k' : Component}
    {change : Component → Component} (hk' : q.component? d = some k')
    (hc : q.components = p.components.modify c (Option.map change))
    (hsame : ∀ k : Component, k.SameMount (change k)) :
    ∃ k, p.component? d = some k ∧ k.SameMount k' := by
  rw [component?_of_modify hc] at hk'
  split at hk'
  · obtain ⟨k, hk, rfl⟩ := Option.map_eq_some_iff.mp hk'
    exact ⟨k, hk, hsame k⟩
  · exact ⟨k', hk', rfl, rfl⟩

/-- A component after a move was present before, on the same host, or was created by it. -/
theorem Move.origin {kind : Kind} {p q : Page} (move : Move kind p q) {d : ComponentId}
    {k' : Component} (hk' : q.component? d = some k') :
    (∃ k, p.component? d = some k ∧ k.SameMount k') ∨
      d = p.components.length ∧ kind = .create k'.host ∧ k'.host < p.hosts.length := by
  cases move with
  | tree e =>
    obtain ⟨_, _, _, rfl⟩ := e.kept.only
    exact .inl ⟨k', hk', rfl, rfl⟩
  | mark | ask | await | sleep | finishGone | dropAborted | clear | wake | advance | pollSleep
  | dropSleep | fault | mend | note | other => exact .inl ⟨k', hk', rfl, rfl⟩
  | bind | unbind | rebind | replace | adopt | disconnect | start | refuse | finish =>
    exact .inl (origin_of_modify hk' rfl fun _ => ⟨rfl, rfl⟩)
  | create _ h config hh =>
    rw [component?_of_append (p := p) rfl] at hk'
    split at hk'
    · rename_i hd
      cases hk'
      exact .inr ⟨hd, rfl, hh⟩
    · exact .inl ⟨k', hk', rfl, rfl⟩
  | drop =>
    rw [component?_of_set_none (p := p) rfl] at hk'
    split at hk'
    · cases hk'
    · exact .inl ⟨k', hk', rfl, rfl⟩

/-- No move shortens the list of components. -/
theorem Move.components_le {k : Kind} {p q : Page} (move : Move k p q) :
    p.components.length ≤ q.components.length := by
  cases move with
  | tree e =>
    obtain ⟨_, _, _, rfl⟩ := e.kept.only
    exact Nat.le_refl _
  | create => simp
  | bind | unbind | rebind | replace | adopt | disconnect | drop | start | refuse | finish => simp
  | mark | ask | await | sleep | finishGone | dropAborted | clear | wake | advance | pollSleep
  | dropSleep | fault | mend | note | other => exact Nat.le_refl _

theorem Course.components_le {S : Kind → Prop} {p q : Page} (h : Course S p q) :
    p.components.length ≤ q.components.length :=
  h.keeps (I := fun r => p.components.length ≤ r.components.length)
    (fun _ _ _ _ move ih => Nat.le_trans ih move.components_le) (Nat.le_refl _)

/-- A component after a course was present before, on the same host, or was created there. -/
theorem Course.origin {S : Kind → Prop} {p q : Page} (h : Course S p q) {d : ComponentId}
    {k' : Component} (hk' : q.component? d = some k') :
    (∃ k, p.component? d = some k ∧ k.SameMount k') ∨
      p.components.length ≤ d ∧ S (.create k'.host) := by
  induction h generalizing k' with
  | refl => exact .inl ⟨k', hk', rfl, rfl⟩
  | tail hpr hstep ih =>
    obtain ⟨kind, hkind, move⟩ := hstep
    rcases move.origin hk' with ⟨k, hk, hsame⟩ | ⟨rfl, rfl, -⟩
    · rcases ih hk with ⟨k₀, hk₀, hsame₀⟩ | ⟨hnew, hcreate⟩
      · exact .inl ⟨k₀, hk₀, hsame.1.trans hsame₀.1, hsame.2.trans hsame₀.2⟩
      · exact .inr ⟨hnew, by rwa [hsame.1]⟩
    · exact .inr ⟨Course.components_le hpr, hkind⟩

/-- A component is present after every move that does not drop it. -/
theorem Move.stays {kind : Kind} {p q : Page} (move : Move kind p q) {c : ComponentId}
    (hkind : kind ≠ .drop c) (hc : (p.component? c).isSome = true) :
    (q.component? c).isSome = true := by
  cases move with
  | tree e =>
    obtain ⟨_, _, _, rfl⟩ := e.kept.only
    exact hc
  | mark | ask | await | sleep | finishGone | dropAborted | clear | wake | advance | pollSleep
  | dropSleep | fault | mend | note | other => exact hc
  | bind | unbind | rebind | replace | adopt | disconnect | start | refuse | finish =>
    rw [component?_of_modify (p := p) rfl]
    split
    · rwa [Option.isSome_map]
    · exact hc
  | create =>
    rw [component?_of_append (p := p) rfl]
    split
    · rfl
    · exact hc
  | @drop _ d =>
    have hdc : d ≠ c := fun h => hkind (by rw [h])
    rwa [component?_of_set_none (p := p) rfl, if_neg hdc]

/-- A component that is present before and after a course has the same host and configuration. -/
theorem Course.sameMount {S : Kind → Prop} {p q : Page} (h : Course S p q) {c : ComponentId}
    {k k' : Component} (hk : p.component? c = some k) (hk' : q.component? c = some k') :
    k.SameMount k' := by
  rcases h.origin hk' with ⟨k₀, hk₀, hsame⟩ | ⟨hnew, -⟩
  · rw [hk] at hk₀
    cases hk₀
    exact hsame
  · exact absurd (lt_of_component? hk) (Nat.not_lt.mpr hnew)

/-- A course that does not drop a component preserves its host and its configuration. -/
theorem Course.mounted {S : Kind → Prop} {p q : Page} (h : Course S p q) {c : ComponentId}
    {k : Component} (hS : ¬ S (.drop c)) (hk : p.component? c = some k) :
    ∃ k', q.component? c = some k' ∧ k.SameMount k' := by
  have hstays : (q.component? c).isSome = true :=
    h.keeps (I := fun r => (r.component? c).isSome = true)
      (fun _ _ _ hkind move ih => move.stays (by rintro rfl; exact hS hkind) ih) (by rw [hk]; rfl)
  obtain ⟨k', hk'⟩ := Option.isSome_iff_exists.mp hstays
  exact ⟨k', hk', h.sameMount hk hk'⟩

/-- A component that became submitting has started a pipeline. -/
theorem Move.submitting {kind : Kind} {p q : Page} (move : Move kind p q) {d : ComponentId}
    {k' : Component} (hk' : q.component? d = some k') (hs : k'.state = .submitting) :
    kind = .start d ∨ ∃ k, p.component? d = some k ∧ k.state = .submitting := by
  cases move with
  | tree e =>
    obtain ⟨_, _, _, rfl⟩ := e.kept.only
    exact .inr ⟨k', hk', hs⟩
  | mark | ask | await | sleep | finishGone | dropAborted | clear | wake | advance | pollSleep
  | dropSleep | fault | mend | note | other => exact .inr ⟨k', hk', hs⟩
  | bind | unbind | rebind | replace | adopt =>
    rw [component?_of_modify (p := p) rfl] at hk'
    split at hk'
    · obtain ⟨k, hk, rfl⟩ := Option.map_eq_some_iff.mp hk'
      exact .inr ⟨k, hk, hs⟩
    · exact .inr ⟨k', hk', hs⟩
  | disconnect | refuse | finish =>
    -- these moves leave their component idle
    rw [component?_of_modify (p := p) rfl] at hk'
    split at hk'
    · obtain ⟨k, hk, rfl⟩ := Option.map_eq_some_iff.mp hk'
      cases hs
    · exact .inr ⟨k', hk', hs⟩
  | start =>
    rw [component?_of_modify (p := p) rfl] at hk'
    split at hk'
    · rename_i hcd
      exact .inl (by rw [hcd])
    · exact .inr ⟨k', hk', hs⟩
  | create =>
    rw [component?_of_append (p := p) rfl] at hk'
    split at hk'
    · cases hk'
      cases hs
    · exact .inr ⟨k', hk', hs⟩
  | drop =>
    rw [component?_of_set_none (p := p) rfl] at hk'
    split at hk'
    · cases hk'
    · exact .inr ⟨k', hk', hs⟩

theorem Course.submitting {S : Kind → Prop} {p q : Page} (h : Course S p q) {d : ComponentId}
    {k' : Component} (hk' : q.component? d = some k') (hs : k'.state = .submitting) :
    S (.start d) ∨ ∃ k, p.component? d = some k ∧ k.state = .submitting := by
  induction h generalizing k' with
  | refl => exact .inr ⟨k', hk', hs⟩
  | tail _ hstep ih =>
    obtain ⟨kind, hkind, move⟩ := hstep
    rcases move.submitting hk' hs with rfl | ⟨k, hk, hk_busy⟩
    · exact .inl hkind
    · exact ih hk hk_busy

/-! ## Pipelines -/

/-- `PipelineKept s p q`: `s` keeps its owner, does not go back to an earlier stage, and is not live
on `q` unless it was on `p`. -/
def PipelineKept (s : PipelineId) (p q : Page) : Prop :=
  ∀ pipe, p.pipelines[s]? = some pipe → ∃ pipe', q.pipelines[s]? = some pipe' ∧ pipe.Onward pipe'

private theorem PipelineKept.of_same {p q : Page} {s : PipelineId}
    (hs : q.pipelines = p.pipelines) : PipelineKept s p q :=
  fun pipe hpipe => ⟨pipe, by rw [hs, hpipe], .refl pipe⟩

private theorem PipelineKept.of_modify {p q : Page} {s t : PipelineId}
    {change : Pipeline → Pipeline} (hs : q.pipelines = p.pipelines.modify t change)
    (hchange : ∀ pipe, p.pipelines[t]? = some pipe → pipe.Onward (change pipe)) :
    PipelineKept s p q := by
  intro pipe hpipe
  by_cases hts : t = s
  · subst hts
    refine ⟨change pipe, ?_, hchange pipe hpipe⟩
    rw [hs, List.getElem?_modify_eq, hpipe]
    rfl
  · refine ⟨pipe, ?_, .refl pipe⟩
    rw [hs, List.getElem?_modify_ne _ _ hts, hpipe]

theorem Move.pipelineKept {k : Kind} {p q : Page} (move : Move k p q) (s : PipelineId) :
    PipelineKept s p q := by
  cases move with
  | tree e =>
    obtain ⟨_, _, _, rfl⟩ := e.kept.only
    exact .of_same rfl
  | mark | create | bind | unbind | rebind | replace | adopt | drop | refuse | ask | clear | wake
  | advance | pollSleep | dropSleep | fault | mend | note | other => exact .of_same rfl
  | @disconnect _ _ k =>
    cases hf : k.inFlight with
    | none => exact .of_same rfl
    | some t =>
      -- `abort` preserves the stage
      refine .of_modify rfl fun pipe _ => ⟨rfl, fun hlive => ?_, Nat.le_refl _⟩
      simp [Pipeline.isLive, Pipeline.abort] at hlive
  | start =>
    intro pipe hpipe
    refine ⟨pipe, ?_, .refl pipe⟩
    rw [List.getElem?_append_left (List.getElem?_eq_some_iff.mp hpipe).1]
    exact hpipe
  | await hs =>
    obtain ⟨pipe₁, hpipe₁, -, hlive⟩ := hs.liveAt
    obtain ⟨pipe₂, hpipe₂, -, -, hexchange⟩ := hs
    refine .of_modify rfl fun pipe hpipe => ⟨rfl, fun _ => ?_, ?_⟩
    · rw [hpipe₁] at hpipe
      cases hpipe
      exact hlive
    · rw [hpipe₂] at hpipe
      cases hpipe
      exact Stage.isExchange_iff.mp hexchange
  | sleep hpipe _ hlive hsleep =>
    refine .of_modify rfl fun pipe' hpipe' => ?_
    rw [hpipe] at hpipe'
    cases hpipe'
    refine ⟨rfl, fun _ => hlive, ?_⟩
    rcases hsleep with hsettling | ⟨hexchange, -⟩
    · rw [hsettling]
      exact Nat.le_refl _
    · exact Nat.le_succ_of_le (Stage.isExchange_iff.mp hexchange)
  | finish | finishGone | dropAborted =>
    refine .of_modify rfl fun pipe _ => ⟨rfl, fun hlive => ?_, Stage.rank_le_finished pipe.stage⟩
    cases hlive

theorem Course.pipelineKept {S : Kind → Prop} {p q : Page} (h : Course S p q)
    (s : PipelineId) : PipelineKept s p q := by
  refine h.keeps (I := PipelineKept s p) (fun _ q r _ move ih pipe hpipe => ?_) (.of_same rfl)
  obtain ⟨pipe', hpipe', honward⟩ := ih pipe hpipe
  obtain ⟨sub'', hsub'', honward'⟩ := move.pipelineKept s pipe' hpipe'
  exact ⟨sub'', hsub'', honward.trans honward'⟩

/-- Only `start` moves add pipelines. -/
theorem Move.length_pipelines {kind : Kind} {p q : Page} (move : Move kind p q)
    (hkind : ∀ c, kind ≠ .start c) : q.pipelines.length = p.pipelines.length := by
  cases move with
  | tree e =>
    obtain ⟨_, _, _, rfl⟩ := e.kept.only
    rfl
  | start => exact absurd rfl (hkind _)
  | @disconnect _ _ k =>
    cases hf : k.inFlight <;> simp [pipelinesAborting]
  | await | sleep | finish | finishGone | dropAborted => exact List.length_modify _ _ _
  | mark | create | bind | unbind | rebind | replace | adopt | drop | refuse | ask | clear | wake
  | advance | pollSleep | dropSleep | fault | mend | note | other => rfl

theorem Course.length_pipelines {S : Kind → Prop} {p q : Page} (h : Course S p q)
    (hS : ∀ c, ¬ S (.start c)) :
    q.pipelines.length = p.pipelines.length :=
  h.keeps (I := fun r => r.pipelines.length = p.pipelines.length)
    (fun _ _ _ hkind move ih =>
      (move.length_pipelines (by rintro c rfl; exact hS c hkind)).trans ih) rfl

/-- An old pipeline that is live after a course was live before. -/
theorem Course.liveAt {S : Kind → Prop} {p q : Page} (h : Course S p q) {c : ComponentId}
    {s : PipelineId} (hs : s < p.pipelines.length) (hlive : q.LiveAt c s) :
    p.LiveAt c s := by
  obtain ⟨pipe', hpipe', hown, hl⟩ := hlive
  obtain ⟨sub'', hsub'', honward⟩ := h.pipelineKept s _ (List.getElem?_eq_getElem hs)
  rw [hpipe'] at hsub''
  cases hsub''
  exact ⟨_, List.getElem?_eq_getElem hs, honward.owner.symm.trans hown, honward.live hl⟩

/-! ## Faults and known ids -/

/-- Only a `fault` move makes an operation fail. -/
theorem Move.fails {kind : Kind} {p q : Page} (move : Move kind p q) {f : Fault}
    (hf : kind ≠ .fault f) (hq : q.fails f = true) : p.fails f = true := by
  cases move with
  | tree e =>
    obtain ⟨_, _, _, rfl⟩ := e.kept.only
    exact hq
  | fault _ g =>
    have hne : f ≠ g := fun h => hf (by rw [h])
    simpa [Page.fails, setFault, hne] using hq
  | mend _ g =>
    simp only [Page.fails, setFault, List.contains_iff_mem] at hq ⊢
    exact (List.mem_filter.mp hq).1
  | mark | create | bind | unbind | rebind | replace | adopt | disconnect | drop | start | refuse
  | ask | await | sleep | finish | finishGone | dropAborted | clear | wake | advance | pollSleep
  | dropSleep | note | other => exact hq

/-- `p.HostsKnown`: every component is on a host of the page. -/
def HostsKnown (p : Page) : Prop :=
  ∀ (c : ComponentId) (k : Component), p.component? c = some k → k.host < p.hosts.length

theorem Move.hostsKnown {kind : Kind} {p q : Page} (move : Move kind p q) (h : p.HostsKnown) :
    q.HostsKnown := by
  intro c k' hk'
  rcases move.origin hk' with ⟨k, hk, hsame⟩ | ⟨-, -, hh⟩
  · rw [hsame.1]
    exact Nat.lt_of_lt_of_le (h c k hk) move.hosts_le
  · exact Nat.lt_of_lt_of_le hh move.hosts_le

/-- `ChildrenKnown` is preserved by every move. -/
theorem Move.childrenKnown {kind : Kind} {p q : Page} (move : Move kind p q)
    (h : p.ChildrenKnown) : q.ChildrenKnown := by
  have hle := move.hosts_le
  cases move with
  | tree e => exact e.childrenKnown h
  | mark | create | bind | unbind | rebind | replace | adopt | disconnect | drop | start | refuse
  | ask | await | sleep | finish | finishGone | dropAborted | clear | wake | advance | pollSleep
  | dropSleep | fault | mend | note | other => exact h.of_documents rfl hle

/-! ## Stages -/

/-- The stage of a pipeline after a change of one of them. -/
private theorem stage_of_modify {p q : Page} {s t : PipelineId} {pipe' : Pipeline}
    {change : Pipeline → Pipeline} (hs : q.pipelines = p.pipelines.modify t change)
    (hpipe' : q.pipelines[s]? = some pipe') :
    ∃ pipe, p.pipelines[s]? = some pipe ∧
      (pipe'.stage = pipe.stage ∨ pipe'.stage = (change pipe).stage) := by
  rw [hs, List.getElem?_modify] at hpipe'
  obtain ⟨pipe, hpipe, rfl⟩ := Option.map_eq_some_iff.mp hpipe'
  refine ⟨pipe, hpipe, ?_⟩
  split
  · exact .inr rfl
  · exact .inl rfl

/-- A pipeline after a move has the same stage, or is new with the form of a component, or is
pending on a deferred reply, or is past its exchange. -/
theorem Move.stage_cases {kind : Kind} {p q : Page} (move : Move kind p q) {s : PipelineId}
    {pipe' : Pipeline} (hpipe' : q.pipelines[s]? = some pipe') :
    (∃ pipe, p.pipelines[s]? = some pipe ∧ pipe'.stage = pipe.stage) ∨
    (∃ c k f payload, p.component? c = some k ∧ k.form = some f ∧
      pipe'.stage = .accepted f payload) ∨
    (∃ reply payload, pipe'.stage = .awaiting (.awaiting reply) payload) ∨
    2 ≤ pipe'.stage.rank := by
  cases move with
  | tree e =>
    obtain ⟨_, _, _, rfl⟩ := e.kept.only
    exact .inl ⟨pipe', hpipe', rfl⟩
  | mark | create | bind | unbind | rebind | replace | adopt | drop | refuse | ask | clear | wake
  | advance | pollSleep | dropSleep | fault | mend | note | other => exact .inl ⟨pipe', hpipe', rfl⟩
  | @disconnect _ _ k =>
    cases hf : k.inFlight with
    | none =>
      rw [hf] at hpipe'
      exact .inl ⟨pipe', hpipe', rfl⟩
    | some t =>
      rw [hf] at hpipe'
      obtain ⟨pipe, hpipe, hstage⟩ := stage_of_modify (p := p) rfl hpipe'
      exact .inl ⟨pipe, hpipe, hstage.elim id id⟩
  | @start _ c k f hk _ hform _ payload =>
    rcases List.mem_append.mp (List.mem_of_getElem? hpipe') with hold | hnew
    · by_cases hlt : s < p.pipelines.length
      · rw [List.getElem?_append_left hlt] at hpipe'
        exact .inl ⟨pipe', hpipe', rfl⟩
      · rw [List.getElem?_append_right (Nat.not_lt.mp hlt)] at hpipe'
        cases List.mem_singleton.mp (List.mem_of_getElem? hpipe')
        exact .inr (.inl ⟨c, k, f, payload, hk, hform, rfl⟩)
    · cases List.mem_singleton.mp hnew
      exact .inr (.inl ⟨c, k, f, payload, hk, hform, rfl⟩)
  | await _ reply payload =>
    obtain ⟨pipe, hpipe, hstage | hstage⟩ := stage_of_modify (p := p) rfl hpipe'
    · exact .inl ⟨pipe, hpipe, hstage⟩
    · exact .inr (.inr (.inl ⟨reply, payload, hstage⟩))
  | sleep | finish | finishGone | dropAborted =>
    obtain ⟨pipe, hpipe, hstage | hstage⟩ := stage_of_modify (p := p) rfl hpipe'
    · exact .inl ⟨pipe, hpipe, hstage⟩
    · refine .inr (.inr (.inr ?_))
      rw [hstage]
      simp [Pipeline.at, Stage.rank]

end Page

end FormSwap
