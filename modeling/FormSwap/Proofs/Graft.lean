import FormSwap.Proofs.Binding
import FormSwap.Proofs.Partition

/-!
# Replacing a host

`setOuterHtml` replaces a host by what the markup describes. That does not depend on the page:
`addFragments` yields the same hosts, forms and children on every page, up to their ids, which
follow the existing ones. Ids do not occur in the markup of a document, so the markup of the
replaced host is replaced by the markup that the new children have in a document of their own.

Main definitions:

- `Page.ofMarkup`: a page with one document for some markup
- `Host.placed`, `Child.shifted`: hosts and children with their ids on another page

Main results:

- `Page.addFragments_eq`: `addFragments` on any page
- `Page.setOuterHtml_eq_graft`: the page after a replacement
- `Page.html_graft`: the markup of the document after a replacement
- `Page.replacement_is_local`: a replacement changes the place of the host and nothing else
-/

namespace FormSwap

open FormSwap.Markup

/-! ## Shifted ids -/

/-- `Content.shifted n content` is `content` with its form's id shifted by `n`. -/
def Content.shifted (n : Nat) : Content → Content
  | .form f => .form (n + f)
  | .markup html found => .markup html (found.map (n + ·))

/-- `Host.placed d n host` is `host` connected to `d`, with its form's id shifted by `n`. -/
def Host.placed (d : DocumentId) (n : Nat) (host : Host) : Host :=
  { host with content := host.content.shifted n, parent := some d }

/-- `Child.shifted n child` is `child` with its host's id shifted by `n`. -/
def Child.shifted (n : Nat) : Child → Child
  | .markup html => .markup html
  | .host h => .host (n + h)

@[simp] theorem Child.shifted_markup (n : Nat) (html : String) :
    (Child.markup html).shifted n = .markup html := rfl

@[simp] theorem Child.shifted_host (n : Nat) (h : HostId) :
    (Child.host h).shifted n = .host (n + h) := rfl

theorem Child.host_mem_map_shifted {n : Nat} {h : HostId} {children : List Child}
    (hh : .host h ∈ children.map (Child.shifted n)) : ∃ i, h = n + i ∧ .host i ∈ children := by
  obtain ⟨child, hchild, heq⟩ := List.mem_map.1 hh
  cases child with
  | markup html => cases heq
  | host i =>
    cases heq
    exact ⟨i, rfl, hchild⟩

theorem Content.shifted_shifted (n k : Nat) (content : Content) :
    (content.shifted k).shifted n = content.shifted (n + k) := by
  cases content with
  | form f => simp [shifted, Nat.add_assoc]
  | markup html found => cases found <;> simp [shifted, Nat.add_assoc]

theorem Host.placed_placed (d e : DocumentId) (n k : Nat) (host : Host) :
    (host.placed e k).placed d n = host.placed d (n + k) := by
  simp [placed, Content.shifted_shifted]

theorem Child.shifted_shifted (n k : Nat) (child : Child) :
    (child.shifted k).shifted n = child.shifted (n + k) := by
  cases child <;> simp [shifted, Nat.add_assoc]

namespace Page

/-! ## Fragments on an empty page -/

/-- `ofMarkup markup` is a page whose only document has the nodes of `markup`. -/
def ofMarkup (markup : String) : Page :=
  ({} : Page).appendMarkup 0 markup

/-- `readContent` yields the same on every page, up to the form's id. -/
theorem readContent_eq (markup : String) :
    ∃ (forms : List Form) (content : Content), ∀ p : Page,
      p.readContent markup =
        ({ p with forms := p.forms ++ forms }, content.shifted p.forms.length) := by
  cases hread : readForm? markup.toList with
  | none =>
    refine ⟨[], .markup markup none, fun p => ?_⟩
    simp [readContent, hread, Content.shifted]
  | some data =>
    refine ⟨[{ data }], .markup markup (some 0), fun p => ?_⟩
    simp [readContent, hread, Content.shifted, addForm]

/-- `addFragments` yields the same on every page, up to ids. -/
private theorem addFragments_uniform (l : List Fragment) :
    ∃ (hosts : List Host) (forms : List Form) (children : List Child),
      ∀ (d : DocumentId) (p : Page), addFragments d p l =
        ({ p with
            hosts := p.hosts ++ hosts.map (Host.placed d p.forms.length)
            forms := p.forms ++ forms },
          children.map (Child.shifted p.hosts.length)) := by
  induction l with
  | nil => exact ⟨[], [], [], fun d p => by simp [addFragments]⟩
  | cons fragment rest ih =>
    obtain ⟨hosts, forms, children, ih⟩ := ih
    cases fragment with
    | text s =>
      refine ⟨hosts, forms, .markup (String.ofList s) :: children, fun d p => ?_⟩
      simp only [addFragments, ih, List.map_cons, Child.shifted_markup]
    | host tag inner closed =>
      obtain ⟨read, content, hread⟩ := readContent_eq (String.ofList inner)
      -- the later fragments are shifted by one host and by the forms read here
      refine ⟨
        { attributes := readAttributes tag, content } :: hosts.map (Host.placed 0 read.length),
        read ++ forms, .host 0 :: children.map (Child.shifted 1), fun d p => ?_⟩
      simp [addFragments, hread, addHost, ih, Host.placed, Child.shifted_shifted,
        Content.shifted_shifted, Function.comp_def]

/-- `addFragments` on any page, from `addFragments` on the empty page. -/
theorem addFragments_eq (d : DocumentId) (p : Page) (l : List Fragment) :
    addFragments d p l =
      ({ p with
          hosts := p.hosts ++ (addFragments 0 {} l).1.hosts.map (Host.placed d p.forms.length)
          forms := p.forms ++ (addFragments 0 {} l).1.forms },
        (addFragments 0 {} l).2.map (Child.shifted p.hosts.length)) := by
  obtain ⟨hosts, forms, children, h⟩ := addFragments_uniform l
  simp [h, Host.placed_placed, Child.shifted_shifted, Function.comp_def]

/-- `ofMarkup` from `addFragments` on the empty page. -/
theorem ofMarkup_eq (markup : String) :
    ofMarkup markup =
      { (addFragments 0 {} (fragments markup.toList)).1 with
        documents := [some { children := (addFragments 0 {} (fragments markup.toList)).2 }] } := by
  have hdocuments := addFragments_documents 0 {} (fragments markup.toList)
  simp [ofMarkup, appendMarkup, modifyDocument, hdocuments]

/-! ## The page after a replacement -/

variable {p : Page} {d : DocumentId} {h : HostId} {doc : Document} {host : Host}

theorem modifyDocument_eq_set (hdoc : p.document? d = some doc) (change : Document → Document) :
    p.modifyDocument d change = { p with documents := p.documents.set d (some (change doc)) } := by
  have hslot : p.documents[d]? = some (some doc) := Option.join_eq_some_iff.1 hdoc
  simp [modifyDocument, List.modify_eq_set_getElem?, hslot]

theorem modifyHost_eq_set (hhost : p.hosts[h]? = some host) (change : Host → Host) :
    p.modifyHost h change = { p with hosts := p.hosts.set h (change host) } := by
  simp [modifyHost, List.modify_eq_set_getElem?, hhost]

/-- The split of a document at a host that occurs once. -/
theorem exists_split_of_count (honce : doc.children.count (.host h) = 1) :
    ∃ before after, doc.children = before ++ .host h :: after ∧ .host h ∉ before ∧
      .host h ∉ after := by
  have hmem : .host h ∈ doc.children := List.count_pos_iff.1 (by omega)
  obtain ⟨before, after, heq⟩ := List.append_of_mem hmem
  have hcount := honce
  rw [heq, List.count_append, List.count_cons_self] at hcount
  refine ⟨before, after, heq, ?_, ?_⟩
  · exact List.count_eq_zero.1 (by omega)
  · exact List.count_eq_zero.1 (by omega)

/-- `p.graft d doc h host made children` is `p` with `h` replaced in `d`: `children` are the
children of `d`, and the hosts and forms of `made` are added. -/
def graft (p : Page) (d : DocumentId) (doc : Document) (h : HostId) (host : Host) (made : Page)
    (children : List Child) : Page :=
  { p with
    documents := p.documents.set d (some { doc with children })
    hosts := p.hosts.set h { host with parent := none } ++
      made.hosts.map (Host.placed d p.forms.length)
    forms := p.forms ++ made.forms }

/-- `setOuterHtml` of a host that occurs once in its document is a `graft`. -/
theorem setOuterHtml_eq_graft (hworks : p.fails .setOuterHtml = false)
    (hdoc : p.document? d = some doc) (hhost : p.hosts[h]? = some host)
    (hparent : host.parent = some d) {before after new : List Child}
    (hsplit : doc.children = before ++ .host h :: after) (hbefore : .host h ∉ before)
    (markup : String)
    (hnew : new =
      (addFragments 0 {} (fragments markup.toList)).2.map (Child.shifted p.hosts.length)) :
    p.setOuterHtml h markup = .ok {
      page := p.graft d doc h host (ofMarkup markup) (before ++ new ++ after)
      inserted := new.filterMap Child.host?
      parent := d } := by
  have hlt : h < p.hosts.length := (List.getElem?_eq_some_iff.1 hhost).1
  have hmem : doc.children.contains (.host h) = true := by simp [hsplit]
  -- the document is edited before the host, which is not among the new ones
  have hedit (hosts : List Host) (forms : List Form) (change : Document → Document) :
      ({ p with hosts, forms } : Page).modifyDocument d change =
        { p with documents := p.documents.set d (some (change doc)), hosts, forms } :=
    modifyDocument_eq_set (p := { p with hosts, forms }) hdoc change
  have hleave (documents : List (Option Document)) (fresh : List Host) (forms : List Form)
      (change : Host → Host) :
      ({ p with documents, hosts := p.hosts ++ fresh, forms } : Page).modifyHost h change =
        { p with documents, hosts := p.hosts.set h (change host) ++ fresh, forms } := by
    rw [modifyHost_eq_set (by rw [List.getElem?_append_left hlt, hhost]),
      List.set_append_left _ _ hlt]
  unfold setOuterHtml
  rw [hhost, Option.bind_some, hparent, hworks, if_neg Bool.false_ne_true]
  dsimp only
  rw [hdoc]
  dsimp only
  rw [if_pos hmem, addFragments_eq d p, ← hnew]
  dsimp only
  rw [hedit, hleave, hsplit, splice_eq hbefore, ofMarkup_eq]
  rfl

/-! ## The markup of the document -/

/-- `outerHtml` from the attributes and contents of the host. -/
theorem outerHtml_eq (hhost : p.hosts[h]? = some host) :
    p.outerHtml h = hostHtml host.attributes (p.contents host.content).html := by
  simp only [outerHtml, innerHtml, hhost, Option.map_some, Option.getD_some]
  cases host.content <;> rfl

/-- `contents` of shifted contents. -/
theorem contents_shifted {q made : Page} (hforms : q.forms = p.forms ++ made.forms)
    (content : Content) :
    q.contents (content.shifted p.forms.length) = made.contents content := by
  have hdata (f : FormId) : q.formData? (p.forms.length + f) = made.formData? f := by
    rw [formData?, formData?, hforms, List.getElem?_append_right (Nat.le_add_right _ _),
      Nat.add_sub_cancel_left]
  cases content with
  | form f => simp [Content.shifted, contents, formHtml_eq, hdata]
  | markup html found => cases found <;> simp [Content.shifted, contents, hdata]

section Graft

variable {made : Page} {children : List Child}

/-- `graft` preserves the other hosts. -/
theorem getElem?_graft_of_lt {i : HostId} (hi : i < p.hosts.length) (hne : i ≠ h) :
    (p.graft d doc h host made children).hosts[i]? = p.hosts[i]? := by
  simp only [graft]
  rw [List.getElem?_append_left (by simpa using hi), List.getElem?_set_ne (Ne.symm hne)]

/-- The new hosts of a `graft`. -/
theorem getElem?_graft_add (i : HostId) :
    (p.graft d doc h host made children).hosts[p.hosts.length + i]? =
      (made.hosts[i]?).map (Host.placed d p.forms.length) := by
  simp only [graft]
  rw [List.getElem?_append_right (by simp), List.length_set, Nat.add_sub_cancel_left,
    List.getElem?_map]

/-- `childHtml` of the old children after a `graft`. -/
theorem childHtml_graft_of_lt (hknown : p.FormsKnown) {child : Child}
    (hchild : ∀ i, child = .host i → i < p.hosts.length ∧ i ≠ h) :
    (p.graft d doc h host made children).childHtml child = p.childHtml child := by
  cases child with
  | markup html => rfl
  | host i =>
    obtain ⟨hi, hne⟩ := hchild i rfl
    have hold : p.hosts[i]? = some p.hosts[i] := List.getElem?_eq_getElem hi
    have hcontents : (p.graft d doc h host made children).contents p.hosts[i].content =
        p.contents p.hosts[i].content :=
      contents_of_kept (.append Form.SameData.refl _ _) (hknown _ (List.getElem_mem hi))
    have hnow : (p.graft d doc h host made children).hosts[i]? = some p.hosts[i] :=
      (getElem?_graft_of_lt hi hne).trans hold
    rw [childHtml, childHtml, outerHtml_eq hold, outerHtml_eq hnow, hcontents]

/-- `childHtml` of the new children after a `graft`. -/
theorem childHtml_graft_shifted {child : Child}
    (hchild : ∀ i, child = .host i → i < made.hosts.length) :
    (p.graft d doc h host made children).childHtml (child.shifted p.hosts.length) =
      made.childHtml child := by
  cases child with
  | markup html => rfl
  | host i =>
    have hi : i < made.hosts.length := hchild i rfl
    have hmade : made.hosts[i]? = some made.hosts[i] := List.getElem?_eq_getElem hi
    have hplaced : (p.graft d doc h host made children).hosts[p.hosts.length + i]? =
        some (made.hosts[i].placed d p.forms.length) := by
      rw [getElem?_graft_add, hmade, Option.map_some]
    rw [Child.shifted_host, childHtml, childHtml, outerHtml_eq hmade, outerHtml_eq hplaced,
      Host.placed, contents_shifted rfl]

end Graft

theorem html_eq_join (hdoc : p.document? d = some doc) :
    p.html d = String.join (doc.children.map p.childHtml) := by
  rw [html, hdoc, Option.map_some, Option.getD_some]

/-- `html` of markup without an opening tag is the markup. -/
theorem html_ofMarkup {markup : String}
    (hplain : ∀ before after, ¬ OpeningAt hostName markup.toList before after) :
    (ofMarkup markup).html 0 = markup := by
  have hfragments : fragments markup.toList = textRun markup.toList :=
    fragments_eq_textRun fun before after hat => absurd hat (hplain before after)
  rw [ofMarkup_eq, html_eq_join rfl, hfragments]
  unfold textRun
  split
  · next hempty =>
    have hmarkup : markup = "" := by simpa using hempty
    simp [addFragments, hmarkup]
  · simp [addFragments, childHtml]

/-- `html` after a `graft`: the children before the host, the new children as on their own page, and
the children after the host. -/
theorem html_graft (hdoc : p.document? d = some doc) (hknown : p.FormsKnown) {made : Page}
    {before pieces after : List Child}
    (hold : ∀ i, .host i ∈ before ++ after → i < p.hosts.length ∧ i ≠ h)
    (hpieces : ∀ i, .host i ∈ pieces → i < made.hosts.length) :
    (p.graft d doc h host made
        (before ++ pieces.map (Child.shifted p.hosts.length) ++ after)).html d =
      String.join (before.map p.childHtml) ++ String.join (pieces.map made.childHtml) ++
        String.join (after.map p.childHtml) := by
  generalize hchildren : before ++ pieces.map (Child.shifted p.hosts.length) ++ after = children
  have hlt : d < p.documents.length :=
    (List.getElem?_eq_some_iff.1 (Option.join_eq_some_iff.1 hdoc)).1
  have hdoc' : (p.graft d doc h host made children).document? d = some { doc with children } := by
    simp [document?, graft, hlt]
  have hkept {l : List Child} (hl : l ⊆ before ++ after) :
      l.map (p.graft d doc h host made children).childHtml = l.map p.childHtml := by
    apply List.map_congr_left
    intro child hchild
    apply childHtml_graft_of_lt hknown
    rintro i rfl
    exact hold i (hl hchild)
  have hcame : (pieces.map (Child.shifted p.hosts.length)).map
      (p.graft d doc h host made children).childHtml = pieces.map made.childHtml := by
    rw [List.map_map]
    apply List.map_congr_left
    intro child hchild
    apply childHtml_graft_shifted
    rintro i rfl
    exact hpieces i hchild
  rw [html_eq_join hdoc', ← hchildren, List.map_append, List.map_append, String.join_append,
    String.join_append, hchildren, hkept (List.subset_append_left _ _),
    hkept (List.subset_append_right _ _), hcame]

/-! ## Replacement is local -/

/-- On every visited page, let a host occur once in its document. Then `setOuterHtml` replaces it by
the nodes of the markup: the children that the markup yields in a document of its own are between
the children before the host and those after it. The hosts returned are the new ones in order, all
of them connected to the document. The replaced host is disconnected. Everything that `Page.graft`
does not change is preserved, in particular the events of the document. The markup of the document
changes at the place of the host only; markup without an opening tag is inserted there as it is. -/
theorem replacement_is_local (hp : p.Visited) (hworks : p.fails .setOuterHtml = false)
    (hdoc : p.document? d = some doc) (hhost : p.hosts[h]? = some host)
    (hparent : host.parent = some d) (honce : doc.children.count (.host h) = 1) (markup : String) :
    ∃ (alone : Document) (before new after : List Child) (r : Replacement),
      (ofMarkup markup).document? 0 = some alone ∧
      doc.children = before ++ .host h :: after ∧
      new = alone.children.map (Child.shifted p.hosts.length) ∧
      p.setOuterHtml h markup = .ok r ∧
      r.page = p.graft d doc h host (ofMarkup markup) (before ++ new ++ after) ∧
      r.inserted = new.filterMap Child.host? ∧
      (∀ i ∈ r.inserted, ∃ fresh, r.page.hosts[i]? = some fresh ∧ fresh.parent = some d) ∧
      r.page.hosts[h]? = some { host with parent := none } ∧
      .host h ∉ before ++ new ++ after ∧
      r.page.html d = String.join (before.map p.childHtml) ++ (ofMarkup markup).html 0 ++
        String.join (after.map p.childHtml) ∧
      ((∀ start rest, ¬ OpeningAt hostName markup.toList start rest) →
        (ofMarkup markup).html 0 = markup) := by
  obtain ⟨before, after, hsplit, hbefore, hafter⟩ := exists_split_of_count honce
  have hlt : h < p.hosts.length := (List.getElem?_eq_some_iff.1 hhost).1
  have halone : (ofMarkup markup).document? 0 =
      some { children := (addFragments 0 {} (fragments markup.toList)).2 } := by
    rw [ofMarkup_eq]
    rfl
  have hmade : ∀ i, .host i ∈ (addFragments 0 {} (fragments markup.toList)).2 →
      i < (ofMarkup markup).hosts.length := by
    intro i hi
    rw [ofMarkup_eq]
    exact ((addFragments_kept 0 {} _).2 i hi).2
  generalize hpieces : (addFragments 0 {} (fragments markup.toList)).2 = pieces at halone hmade
  have hold : ∀ i, .host i ∈ before ++ after → i < p.hosts.length ∧ i ≠ h := by
    intro i hi
    constructor
    · apply hp.childrenKnown d doc hdoc
      rw [hsplit]
      rcases List.mem_append.1 hi with hi | hi <;> simp [hi]
    · rintro rfl
      rcases List.mem_append.1 hi with hi | hi
      · exact hbefore hi
      · exact hafter hi
  have hswap := setOuterHtml_eq_graft hworks hdoc hhost hparent hsplit hbefore markup rfl
  rw [hpieces] at hswap
  refine ⟨_, before, _, after, _, halone, hsplit, rfl, hswap, rfl, rfl, ?_, ?_, ?_, ?_,
    html_ofMarkup⟩
  · intro i hi
    obtain ⟨child, hchild, hi⟩ := List.mem_filterMap.1 hi
    cases child with
    | markup html => cases hi
    | host i =>
      cases hi
      obtain ⟨j, rfl, hj⟩ := Child.host_mem_map_shifted hchild
      have hfresh := List.getElem?_eq_getElem (hmade j hj)
      exact ⟨_, by rw [getElem?_graft_add, hfresh, Option.map_some], rfl⟩
  · simp only [graft]
    rw [List.getElem?_append_left (by simpa using hlt), List.getElem?_set_self hlt]
  · intro hmem
    rcases List.mem_append.1 hmem with hmem | hmem
    · rcases List.mem_append.1 hmem with hmem | hmem
      · exact hbefore hmem
      · -- the new hosts have new ids
        obtain ⟨j, rfl, -⟩ := Child.host_mem_map_shifted hmem
        exact absurd hlt (Nat.not_lt.2 (Nat.le_add_right _ _))
    · exact hafter hmem
  · rw [html_graft hdoc hp.formsInOrder.hosts hold hmade, html_eq_join halone]

/-- A host between two texts is replaced by a host, a text and a host that is not closed. -/
theorem replacement_is_local_between :
    (performAll {} [.appendMarkup 0 "a<ajax-form></ajax-form>b"]).document? 0 =
      some { children := [.markup "a", .host 0, .markup "b"] } ∧
    ∃ r, (performAll {} [.appendMarkup 0 "a<ajax-form></ajax-form>b"]).setOuterHtml 0
        "<ajax-form>c</ajax-form>d<ajax-form swap='x'>" = .ok r ∧
      r.inserted = [1, 2] ∧ (r.page.hosts[0]?).map (·.parent) = some none ∧
      r.page.html 0 =
        "a<ajax-form>c</ajax-form>d<ajax-form swap=\"x\"></ajax-form>b" := by
  have hdoc : (performAll {} [.appendMarkup 0 "a<ajax-form></ajax-form>b"]).document? 0 =
      some { children := [.markup "a", .host 0, .markup "b"] } := by
    decide +kernel
  have hhosts : (performAll {} [.appendMarkup 0 "a<ajax-form></ajax-form>b"]).hosts =
      [{ parent := some 0 }] := by
    decide +kernel
  have hhost : (performAll {} [.appendMarkup 0 "a<ajax-form></ajax-form>b"]).hosts[0]? =
      some { parent := some 0 } := by
    rw [hhosts]
    rfl
  have hmade : (ofMarkup "<ajax-form>c</ajax-form>d<ajax-form swap='x'>").document? 0 =
      some { children := [.host 0, .markup "d", .host 1] } := by
    decide +kernel
  have hpoll : (ofMarkup "<ajax-form>c</ajax-form>d<ajax-form swap='x'>").html 0 =
      "<ajax-form>c</ajax-form>d<ajax-form swap=\"x\"></ajax-form>" := by
    decide +kernel
  obtain ⟨alone, before, new, after, r, halone, hsplit, rfl, hr, -, hinserted, -, hgone, -, hhtml,
    -⟩ := replacement_is_local (Reachable.visited ⟨_, rfl⟩) (by decide +kernel) hdoc hhost rfl
      (by decide) "<ajax-form>c</ajax-form>d<ajax-form swap='x'>"
  obtain rfl := Option.some.inj (halone.symm.trans hmade)
  obtain ⟨rfl, rfl⟩ : before = [.markup "a"] ∧ after = [.markup "b"] := by
    rcases before with _ | ⟨x, _ | ⟨y, _ | ⟨z, rest⟩⟩⟩ <;> simp at hsplit
    exact ⟨by rw [hsplit.1], hsplit.2.symm⟩
  rw [hpoll] at hhtml
  rw [hhosts] at hinserted
  refine ⟨hdoc, r, hr, hinserted, ?_, hhtml⟩
  rw [hgone]
  rfl

end Page

end FormSwap
