import FormSwap.Proofs.Tree
import Mathlib.Data.List.Nodup
import Mathlib.Logic.Relation

/-!
# Links between documents and hosts

A document lists its hosts, and a host has its parent document. `Page.links` is this part of a page,
and every edit of the tree is an edit of the links. An edit is described by the number of
occurrences of each host (`Links.countIn`) and its parent (`Links.parentOf`).

Main results:

- `Links.Step.sound`, `Links.Sound.append`, `Links.Sound.remove`: a host that is connected to a
  document is listed there
- `Links.Step.exact`, `Links.Exact.append`, `Links.Exact.remove`: a host that a document lists is
  connected to it and listed once, if hosts are appended and removed with care
-/

namespace FormSwap

/-- `Links` has the children of the documents and the parents of the hosts. -/
structure Links where
  /-- The children of each document that was not dropped. -/
  children : List (Option (List Child))
  /-- The parent of each host. -/
  parents : List (Option DocumentId)

/-- `p.links` is the links of `p`. -/
def Page.links (p : Page) : Links where
  children := p.documents.map (Option.map (·.children))
  parents := p.hosts.map (·.parent)

namespace Links

/-- `l.childrenOf d` is the children of `d`, unless it was dropped. -/
def childrenOf (l : Links) (d : DocumentId) : Option (List Child) :=
  (l.children[d]?).join

/-- `l.lives d`: the document `d` was not dropped. -/
def lives (l : Links) (d : DocumentId) : Bool :=
  (l.childrenOf d).isSome

/-- `l.parentOf h` is the document that `h` is connected to, dropped or not. -/
def parentOf (l : Links) (h : HostId) : Option DocumentId :=
  (l.parents[h]?).join

/-- `l.countIn d h` is the number of occurrences of `h` in `d`. -/
def countIn (l : Links) (d : DocumentId) (h : HostId) : Nat :=
  ((l.childrenOf d).map (List.count (Child.host h))).getD 0

/-! ## Edits -/

/-- `l.edit d change parents` changes the children of `d` and the parents. -/
def edit (l : Links) (d : DocumentId) (change : List Child → List Child)
    (parents : List (Option DocumentId)) : Links where
  children := l.children.modify d (Option.map change)
  parents

/-- `l.append d h` appends `h` to `d`. -/
def append (l : Links) (d : DocumentId) (h : HostId) : Links :=
  l.edit d (· ++ [.host h]) (l.parents.set h (some d))

/-- `l.remove d h` removes `h` from `d`. -/
def remove (l : Links) (d : DocumentId) (h : HostId) : Links :=
  l.edit d (fun cs => cs.filter fun child => child != .host h) (l.parents.set h none)

/-- `l.graft d new n` appends new children to `d`, of which `n` are hosts. -/
def graft (l : Links) (d : DocumentId) (new : List Child) (n : Nat) : Links :=
  l.edit d (· ++ new) (l.parents ++ List.replicate n (some d))

/-- `l.replace d h new n` replaces `h` in `d` by new children, of which `n` are hosts. -/
def replace (l : Links) (d : DocumentId) (h : HostId) (new : List Child) (n : Nat) : Links :=
  l.edit d (Page.splice h new) ((l.parents ++ List.replicate n (some d)).set h none)

/-- `l.Fresh new n`: the hosts among the new children are the next `n` ids. -/
def Fresh (l : Links) (new : List Child) (n : Nat) : Prop :=
  new.filterMap Child.host? = List.range' l.parents.length n

/-- `Step` is an edit that needs no care: any but `append` and `remove`. -/
inductive Step : Links → Links → Prop where
  | newDocument (l : Links) : Step l { l with children := l.children ++ [some []] }
  | dropDocument (l : Links) (d : DocumentId) :
    Step l { l with children := l.children.set d none }
  | newHost (l : Links) : Step l { l with parents := l.parents ++ [none] }
  | graft {l : Links} {d : DocumentId} {new : List Child} {n : Nat} (hd : l.lives d = true)
      (hnew : l.Fresh new n) : Step l (l.graft d new n)
  | replace {l : Links} {d : DocumentId} {h : HostId} {new : List Child} {n : Nat}
      (hp : l.parentOf h = some d) (hh : 0 < l.countIn d h) (hnew : l.Fresh new n) :
    Step l (l.replace d h new n)

/-! ## The effect of an edit -/

section Effects

-- host ids are `Nat`s here, so that `omega` applies
variable {l : Links} {d d' h h' n : Nat} {new : List Child}

theorem lives_of_countIn (hc : 0 < l.countIn d h) : l.lives d = true := by
  unfold countIn at hc
  unfold lives
  cases hcs : l.childrenOf d with
  | none => simp [hcs] at hc
  | some cs => rfl

theorem lt_of_lives (hd : l.lives d = true) : d < l.children.length := by
  obtain ⟨cs, hcs⟩ := Option.isSome_iff_exists.mp hd
  exact (List.getElem?_eq_some_iff.mp (Option.join_eq_some_iff.mp hcs)).1

/-- `count` of a host among fresh children. -/
theorem Fresh.count (hnew : l.Fresh new n) (h : Nat) :
    new.count (.host h) =
      if l.parents.length ≤ h ∧ h < l.parents.length + n then 1 else 0 := by
  have hhosts : new.count (.host h) = (new.filterMap Child.host?).count h := by
    clear hnew
    induction new with
    | nil => rfl
    | cons child rest ih =>
      cases child with
      | markup html =>
        rw [List.filterMap_cons_none rfl, List.count_cons_of_ne (by simp), ih]
      | host i => simp [Child.host?, List.count_cons, ih]
  rw [hhosts, hnew]
  split
  · rename_i hin
    exact List.nodup_iff_count_eq_one.mp List.nodup_range' h (List.mem_range'_1.mpr hin)
  · rename_i hout
    exact List.count_eq_zero.mpr fun hmem => hout (List.mem_range'_1.mp hmem)

/-- `count` of a host after `splice`. -/
theorem count_splice (new cs : List Child) (h h' : Nat) :
    (Page.splice h new cs).count (.host h') =
      if .host h ∈ cs then cs.count (.host h') + new.count (.host h') - (if h = h' then 1 else 0)
      else cs.count (.host h') := by
  induction cs with
  | nil => rfl
  | cons child rest ih =>
    simp only [Page.splice]
    by_cases hchild : child = .host h
    · subst hchild
      rw [if_pos rfl, if_pos List.mem_cons_self, List.count_append, List.count_cons]
      by_cases hh : h = h'
      · rw [if_pos (by simp [hh]), if_pos hh]
        omega
      · rw [if_neg (by simp [hh]), if_neg hh]
        omega
    · rw [if_neg hchild, List.count_cons, ih, List.count_cons]
      simp only [List.mem_cons, Ne.symm hchild, false_or]
      split
      · -- the subtracted occurrence exists
        rename_i hmem
        have hpos : 0 < rest.count (.host h) := List.count_pos_iff.mpr hmem
        split
        · rename_i hh
          subst hh
          omega
        · omega
      · rfl

theorem childrenOf_edit (change : List Child → List Child) (parents : List (Option DocumentId)) :
    (l.edit d change parents).childrenOf d' =
      if d = d' then (l.childrenOf d').map change else l.childrenOf d' := by
  simp only [childrenOf, edit, List.getElem?_modify]
  split
  · cases l.children[d']? with
    | none => rfl
    | some slot => rfl
  · simp

@[simp] theorem lives_edit (change : List Child → List Child)
    (parents : List (Option DocumentId)) :
    (l.edit d change parents).lives d' = l.lives d' := by
  unfold lives
  rw [childrenOf_edit]
  split <;> simp

theorem countIn_edit (change : List Child → List Child) (parents : List (Option DocumentId)) :
    (l.edit d change parents).countIn d' h =
      if d = d' then ((l.childrenOf d').map fun cs => (change cs).count (.host h)).getD 0
      else l.countIn d' h := by
  unfold countIn
  rw [childrenOf_edit]
  split
  · rw [Option.map_map]
    rfl
  · rfl

theorem countIn_append (hd : l.lives d = true) :
    (l.append d h).countIn d' h' = l.countIn d' h' + if d = d' ∧ h = h' then 1 else 0 := by
  obtain ⟨cs, hcs⟩ := Option.isSome_iff_exists.mp hd
  unfold append
  rw [countIn_edit]
  by_cases hdd : d = d'
  · subst hdd
    simp [countIn, hcs, List.count_singleton]
  · simp [hdd]

theorem countIn_remove :
    (l.remove d h).countIn d' h' = if d = d' ∧ h = h' then 0 else l.countIn d' h' := by
  unfold remove
  rw [countIn_edit]
  by_cases hdd : d = d'
  · subst hdd
    unfold countIn
    cases l.childrenOf d with
    | none => simp
    | some cs =>
      by_cases hh : h = h'
      · subst hh
        simp [List.count_eq_zero]
      · simp [hh, List.count_filter, Ne.symm hh]
  · simp [hdd]

theorem countIn_graft (hd : l.lives d = true) (hnew : l.Fresh new n) :
    (l.graft d new n).countIn d' h = l.countIn d' h +
      if d = d' ∧ l.parents.length ≤ h ∧ h < l.parents.length + n then 1 else 0 := by
  obtain ⟨cs, hcs⟩ := Option.isSome_iff_exists.mp hd
  unfold graft
  rw [countIn_edit]
  by_cases hdd : d = d'
  · subst hdd
    simp [countIn, hcs, hnew.count]
  · simp [hdd]

theorem countIn_replace (hh : 0 < l.countIn d h) (hnew : l.Fresh new n) :
    (l.replace d h new n).countIn d' h' =
      (l.countIn d' h' +
        if d = d' ∧ l.parents.length ≤ h' ∧ h' < l.parents.length + n then 1 else 0) -
          if d = d' ∧ h = h' then 1 else 0 := by
  obtain ⟨cs, hcs⟩ := Option.isSome_iff_exists.mp (lives_of_countIn hh)
  have hmem : Child.host h ∈ cs := by simpa [countIn, hcs] using hh
  unfold replace
  rw [countIn_edit]
  by_cases hdd : d = d'
  · subst hdd
    simp [countIn, hcs, count_splice, hmem, hnew.count]
  · simp [hdd]

/-! The parents after an edit. -/

theorem parentOf_append (hh : h < l.parents.length) :
    (l.append d h).parentOf h' = if h = h' then some d else l.parentOf h' := by
  simp only [parentOf, append, edit, List.getElem?_set, hh, if_true]
  split <;> rfl

theorem parentOf_remove :
    (l.remove d h).parentOf h' = if h = h' then none else l.parentOf h' := by
  simp only [parentOf, remove, edit, List.getElem?_set]
  split
  · split <;> rfl
  · rfl

/-- `parentOf` after hosts are added. -/
private theorem join_getElem?_append (l : Links) (n h : Nat) :
    ((l.parents ++ List.replicate n (some d))[h]?).join =
      if l.parents.length ≤ h ∧ h < l.parents.length + n then some d else l.parentOf h := by
  unfold parentOf
  by_cases hold : h < l.parents.length
  · have hnot : ¬ (l.parents.length ≤ h ∧ h < l.parents.length + n) := by omega
    rw [List.getElem?_append_left hold, if_neg hnot]
  · have hle : l.parents.length ≤ h := Nat.le_of_not_lt hold
    rw [List.getElem?_append_right hle, List.getElem?_replicate, List.getElem?_eq_none hle]
    by_cases hnew : h < l.parents.length + n
    · have hlt : h - l.parents.length < n := by omega
      rw [if_pos hlt, if_pos ⟨hle, hnew⟩]
      rfl
    · have hnot : ¬ h - l.parents.length < n := by omega
      rw [if_neg hnot, if_neg fun hboth => hnew hboth.2]

theorem parentOf_graft : (l.graft d new n).parentOf h =
    if l.parents.length ≤ h ∧ h < l.parents.length + n then some d else l.parentOf h :=
  join_getElem?_append l n h

theorem parentOf_replace : (l.replace d h new n).parentOf h' =
    if h = h' then none
    else if l.parents.length ≤ h' ∧ h' < l.parents.length + n then some d
    else l.parentOf h' := by
  rw [← join_getElem?_append]
  simp only [parentOf, replace, edit, List.getElem?_set]
  split
  · split <;> rfl
  · rfl

theorem childrenOf_newDocument (l : Links) (d' : Nat) :
    childrenOf { l with children := l.children ++ [some []] } d' =
      if d' = l.children.length then some [] else l.childrenOf d' := by
  unfold childrenOf
  split
  · rename_i hd
    subst hd
    simp
  · rename_i hd
    rw [List.getElem?_append, List.getElem?_singleton]
    split
    · rfl
    · rename_i hge
      have hne : ¬ d' - l.children.length = 0 := by omega
      rw [if_neg hne, List.getElem?_eq_none (Nat.le_of_not_lt hge)]

theorem childrenOf_dropDocument :
    childrenOf { l with children := l.children.set d none } d' =
      if d = d' then none else l.childrenOf d' := by
  simp only [childrenOf, List.getElem?_set]
  split
  · split <;> rfl
  · rfl

theorem parentOf_newHost :
    parentOf { l with parents := l.parents ++ [none] } h = l.parentOf h := by
  simp only [parentOf, List.getElem?_append, List.getElem?_singleton]
  split
  · rfl
  · rename_i hge
    rw [List.getElem?_eq_none (Nat.le_of_not_lt hge)]
    split <;> rfl

end Effects

/-! ## Soundness and exactness -/

/-- `l.Sound`: listed hosts exist, and a host that is connected to a document is listed there. -/
structure Sound (l : Links) : Prop where
  known : ∀ d h : Nat, 0 < l.countIn d h → h < l.parents.length
  linked : ∀ h d : Nat, l.parentOf h = some d →
    d < l.children.length ∧ (l.lives d = true → 0 < l.countIn d h)

/-- `l.Exact`: a host that a document lists is connected to it and listed once. -/
def Exact (l : Links) : Prop :=
  ∀ d h : Nat, 0 < l.countIn d h → l.parentOf h = some d ∧ l.countIn d h = 1

section Invariants

variable {l l' : Links} {d h : Nat}

theorem Sound.append (hl : l.Sound) (hd : l.lives d = true) (hh : h < l.parents.length) :
    (l.append d h).Sound where
  known d' h' hc := by
    have hlen : (l.append d h).parents.length = l.parents.length := List.length_set
    rw [countIn_append hd] at hc
    have hold := hl.known d' h'
    grind
  linked h' d' hp := by
    have hlen : (l.append d h).children.length = l.children.length := List.length_modify ..
    have hlives : (l.append d h).lives d' = l.lives d' := lives_edit _ _
    have hlt := lt_of_lives hd
    rw [parentOf_append hh] at hp
    rw [hlen, hlives, countIn_append hd]
    have hold := hl.linked h' d'
    grind

theorem Sound.remove (hl : l.Sound) (d h : Nat) : (l.remove d h).Sound where
  known d' h' hc := by
    have hlen : (l.remove d h).parents.length = l.parents.length := List.length_set
    rw [countIn_remove] at hc
    have hold := hl.known d' h'
    grind
  linked h' d' hp := by
    have hlen : (l.remove d h).children.length = l.children.length := List.length_modify ..
    have hlives : (l.remove d h).lives d' = l.lives d' := lives_edit _ _
    rw [parentOf_remove] at hp
    rw [hlen, hlives, countIn_remove]
    have hold := hl.linked h' d'
    grind

/-- `append` preserves `Exact` if the host is in no document. -/
theorem Exact.append (hl : l.Exact) (hd : l.lives d = true) (hh : h < l.parents.length)
    (hfree : ∀ d', l.parentOf h = some d' → l.lives d' = false) : (l.append d h).Exact := by
  intro d' h' hc
  rw [countIn_append hd] at hc ⊢
  rw [parentOf_append hh]
  have hold := hl d' h'
  -- in another document it would have that one as its parent
  have hlive : 0 < l.countIn d' h' → l.lives d' = true := lives_of_countIn
  grind

/-- `remove` preserves `Exact` if the host is in no other document. -/
theorem Exact.remove (hl : l.Exact)
    (hhere : ∀ d', l.parentOf h = some d' → l.lives d' = true → d' = d) :
    (l.remove d h).Exact := by
  intro d' h' hc
  rw [countIn_remove] at hc ⊢
  rw [parentOf_remove]
  have hold := hl d' h'
  have hlive : 0 < l.countIn d' h' → l.lives d' = true := lives_of_countIn
  grind

theorem Step.sound (step : Step l l') (hl : l.Sound) : l'.Sound := by
  cases step with
  | newDocument =>
    have hchildren := childrenOf_newDocument l
    constructor
    · intro d' h' hc
      have hold := hl.known d' h'
      grind [countIn]
    · intro h' d' hp
      have hold := hl.linked h' d' hp
      grind [countIn, lives]
  | dropDocument d =>
    constructor
    · intro d' h' hc
      have hold := hl.known d' h'
      grind [countIn, childrenOf_dropDocument]
    · intro h' d' hp
      have hold := hl.linked h' d' hp
      grind [countIn, lives, childrenOf_dropDocument]
  | newHost =>
    constructor
    · intro d' h' hc
      have hold := hl.known d' h' hc
      grind
    · intro h' d' hp
      rw [parentOf_newHost] at hp
      exact hl.linked h' d' hp
  | @graft d new n hd hnew =>
    have hlen : (l.graft d new n).parents.length = l.parents.length + n := by
      simp [Links.graft, edit]
    constructor
    · intro d' h' hc
      rw [countIn_graft hd hnew] at hc
      have hold := hl.known d' h'
      grind
    · intro h' d' hp
      have hsame : (l.graft d new n).children.length = l.children.length := List.length_modify ..
      have hlives : (l.graft d new n).lives d' = l.lives d' := lives_edit _ _
      have hlt := lt_of_lives hd
      rw [parentOf_graft] at hp
      rw [hsame, hlives, countIn_graft hd hnew]
      have hold := hl.linked h' d'
      grind
  | @replace d h new n hp hh hnew =>
    -- the replaced host may occur once more, but has no parent now
    have hlen : (l.replace d h new n).parents.length = l.parents.length + n := by
      simp [Links.replace, edit]
    constructor
    · intro d' h' hc
      rw [countIn_replace hh hnew] at hc
      have hold := hl.known d' h'
      grind
    · intro h' d' hp'
      have hsame : (l.replace d h new n).children.length = l.children.length :=
        List.length_modify ..
      have hlives : (l.replace d h new n).lives d' = l.lives d' := lives_edit _ _
      have hlt := lt_of_lives (lives_of_countIn hh)
      rw [parentOf_replace] at hp'
      rw [hsame, hlives, countIn_replace hh hnew]
      have hold := hl.linked h' d'
      grind

theorem Step.exact (step : Step l l') (hl : l.Exact) (hs : l.Sound) : l'.Exact := by
  intro d' h' hc
  have hold := hl d' h'
  -- new hosts occurred nowhere before
  have hknown := hs.known d' h'
  cases step with
  | newDocument =>
    have hchildren := childrenOf_newDocument l d'
    have hparent : parentOf { l with children := l.children ++ [some []] } h' = l.parentOf h' :=
      rfl
    grind [countIn]
  | dropDocument d =>
    have hparent : parentOf { l with children := l.children.set d none } h' = l.parentOf h' :=
      rfl
    grind [countIn, childrenOf_dropDocument]
  | newHost =>
    rw [parentOf_newHost]
    exact hold hc
  | @graft d new n hd hnew =>
    rw [countIn_graft hd hnew] at hc ⊢
    rw [parentOf_graft]
    grind
  | @replace d h new n hp hh hnew =>
    rw [countIn_replace hh hnew] at hc ⊢
    rw [parentOf_replace]
    grind

theorem Sound.steps (h : Relation.ReflTransGen Step l l') (hl : l.Sound) : l'.Sound := by
  induction h with
  | refl => exact hl
  | tail _ step ih => exact step.sound ih

theorem Exact.steps (h : Relation.ReflTransGen Step l l') (hl : l.Exact) (hs : l.Sound) :
    l'.Exact := by
  induction h with
  | refl => exact hl
  | tail before step ih => exact step.exact ih (hs.steps before)

end Invariants

end Links

end FormSwap
