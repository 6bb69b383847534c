import FormSwap.Proofs.Graft
import FormSwap.Proofs.WrittenTag

/-!
# Writing and reading a document

`Page.html` writes a document in one normal form: each tag has its attributes after single spaces
and in double quotes, and every host is closed. Text is unchanged. The result differs from the
markup that the document was read from, but `fragments` splits it in the same places: an opening or
closing tag begins with its only `<`, so none overlaps two fragments.

Main definitions:

- `Markup.Fragment.rewritten`: a fragment as it is written
- `Page.Shows`: the child of a document for a fragment
- `Page.Resembles`: children of documents that are equal up to ids

Main results:

- `Markup.fragments_rewritten`: the fragments of a written document are the rewritten fragments
- `Page.appendMarkup_shows`: `appendMarkup` appends children that show its fragments
- `Page.written_document_reads_back`: a document that is written and read again is the same up to
  ids
-/

namespace FormSwap

namespace Markup

open FormSwap.Text

/-! ## Written tags -/

/-- `attributesText l` is the attributes as they are written in a host's tag. -/
def attributesText (l : List (String × String)) : List Char :=
  l.flatMap fun a => (attributeHtml a).toList

theorem toList_hostHtml (attributes : List (String × String)) (inner : String) :
    (hostHtml attributes inner).toList =
      '<' :: hostName ++ attributesText attributes ++ '>' :: inner.toList ++ hostClosing := by
  unfold hostHtml
  simp only [String.toList_append, String.toList_join, List.flatMap_map, hostName, hostClosing,
    attributesText]
  simp

/-- `attributesText` is written in the form that `readAttributes` expects. -/
theorem writes_attributesText {l : List (String × String)} (hname : ∀ a ∈ l, IsName a.1.toList)
    (hquote : ∀ a ∈ l, '"' ∉ a.2.toList) : Writes l (attributesText l) := by
  induction l with
  | nil => exact .nil
  | cons a l ih =>
    obtain ⟨name, value⟩ := a
    have hrest : Writes l (attributesText l) :=
      ih (fun a ha => hname a (List.mem_cons_of_mem _ ha))
        fun a ha => hquote a (List.mem_cons_of_mem _ ha)
    by_cases hempty : value = ""
    · have htext : attributesText ((name, value) :: l) =
          ' ' :: (name.toList ++ attributesText l) := by
        simp [attributesText, attributeHtml, hempty]
      rw [htext, hempty]
      exact .bare (hname _ List.mem_cons_self) hrest
    · have htext : attributesText ((name, value) :: l) =
          ' ' :: (name.toList ++ '=' :: '"' :: (value.toList ++ '"' :: attributesText l)) := by
        simp [attributesText, attributeHtml, hempty]
      rw [htext]
      exact .quoted (hname _ List.mem_cons_self) (hquote _ List.mem_cons_self) hrest

theorem not_mem_attributesText {l : List (String × String)} {x : Char} (hsign : x ∉ " =\"".toList)
    (hl : ∀ a ∈ l, x ∉ a.1.toList ∧ x ∉ a.2.toList) : x ∉ attributesText l := by
  obtain ⟨hspace, hassign, hquote⟩ : x ≠ ' ' ∧ x ≠ '=' ∧ x ≠ '"' := by simpa using hsign
  intro hmem
  obtain ⟨a, ha, hx⟩ := List.mem_flatMap.1 hmem
  obtain ⟨hname, hvalue⟩ := hl a ha
  unfold attributeHtml at hx
  split at hx
  · simp [hspace, hname] at hx
  · simp [hspace, hname, hassign, hquote, hvalue] at hx

/-! ## Rewritten fragments -/

/-- `x.Unquoted`: no attribute value of a host has a double quote. -/
def Fragment.Unquoted : Fragment → Prop
  | .text _ => True
  | .host tag _ _ => ∀ a ∈ readAttributes tag, '"' ∉ a.2.toList

/-- `x.rewritten` is the fragment as it is written: the attributes in normal form, and the host
closed. -/
def Fragment.rewritten : Fragment → Fragment
  | .text t => .text t
  | .host tag inner _ => .host (attributesText (readAttributes tag)) inner true

variable {x : Fragment} {rest : List Fragment} {s : List Char}

/-- `readAttributes` of a rewritten tag is that of the tag. -/
theorem readAttributes_attributesText {tag : List Char}
    (hquote : ∀ a ∈ readAttributes tag, '"' ∉ a.2.toList) :
    readAttributes (attributesText (readAttributes tag)) = readAttributes tag :=
  (writes_attributesText (fun _ => isName_of_mem_readAttributes) hquote).readAttributes_eq

/-- `Fits` is preserved by `rewritten`. -/
theorem Fragment.Fits.rewritten (h : x.Fits rest) (hx : x.Unquoted) :
    x.rewritten.Fits (rest.map Fragment.rewritten) := by
  cases x with
  | text t =>
    obtain ⟨hne, hadjacent, hopening⟩ := h
    refine ⟨hne, fun u hu => ?_, fun before after hat => ?_⟩
    · cases rest with
      | nil => cases hu
      | cons y rest =>
        cases y with
        | text u => exact hadjacent u rfl
        | host => cases hu
    · obtain ⟨hlast, hgt⟩ := hopening before after hat
      exact ⟨by rw [hlast, List.map_nil], hgt⟩
  | host tag inner closed =>
    obtain ⟨hgt, -, hinner, -⟩ := h
    have hwrites : Writes (readAttributes tag) (attributesText (readAttributes tag)) :=
      writes_attributesText (fun _ => isName_of_mem_readAttributes) hx
    refine ⟨?_, fun c hc => .inl (hwrites.isBlank_head c hc), hinner, nofun⟩
    exact not_mem_attributesText (by decide) fun a ha =>
      not_mem_of_mem_readAttributes ha (by decide) hgt

/-- `fragments` of the rewritten sources is the rewritten fragments. -/
theorem fragments_rewritten (h : ∀ x ∈ fragments s, x.Unquoted) :
    fragments ((fragments s).flatMap fun x => x.rewritten.source) =
      (fragments s).map Fragment.rewritten := by
  have hsplit : IsSplit ((fragments s).flatMap fun x => x.rewritten.source)
      ((fragments s).map Fragment.rewritten) := by
    refine ⟨by rw [List.flatMap_map], fun before x after heq => ?_⟩
    obtain ⟨before', tail, hl, -, htail⟩ := List.map_eq_append_iff.1 heq
    obtain ⟨x', after', rfl, rfl, rfl⟩ := List.map_eq_cons_iff.1 htail
    have hx : x'.Unquoted := h x' (by simp [hl])
    exact ((isSplit_fragments s).fits before' x' after' hl).rewritten hx
  exact hsplit.eq_fragments.symm

end Markup

namespace Page

open FormSwap.Markup

/-! ## Children and fragments -/

/-- `p.Shows x child`: a text is shown as markup, and a host with the attributes of its tag, its
contents, and the form that is read from them. -/
def Shows (p : Page) : Fragment → Child → Prop
  | .text s, .markup html => html = String.ofList s
  | .host tag inner _, .host h => ∃ host, p.hosts[h]? = some host ∧
      host.attributes = readAttributes tag ∧ p.innerHtml h = String.ofList inner ∧
      (p.queryForm h).bind p.formData? = readForm? inner
  | _, _ => False

/-- `Resembles p q child child'`: markup is equal, and hosts have equal attributes in the same
order, equal contents, and forms with equal action, method and fields, or no forms. -/
def Resembles (p q : Page) : Child → Child → Prop
  | .markup html, .markup html' => html' = html
  | .host h, .host h' => ∃ host host', p.hosts[h]? = some host ∧ q.hosts[h']? = some host' ∧
      host'.attributes = host.attributes ∧ q.innerHtml h' = p.innerHtml h ∧
      (q.queryForm h').bind q.formData? = (p.queryForm h).bind p.formData?
  | _, _ => False

variable {p q : Page} {d e : DocumentId} {doc : Document} {x : Fragment} {child child' : Child}

/-- `contents` from `innerHtml` and the data of the form. -/
theorem contents_eq {h : HostId} {host : Host} (hhost : p.hosts[h]? = some host) :
    p.contents host.content = ⟨p.innerHtml h, (p.queryForm h).bind p.formData?⟩ := by
  simp only [innerHtml, queryForm, hhost, Option.map_some, Option.bind_some]
  cases host.content <;> rfl

/-- A child whose `piece` is that of a fragment shows it. -/
theorem shows_of_piece (h : p.piece 0 child = Piece.ofFragment x)
    (hknown : ∀ i, child = .host i → i < p.hosts.length) : p.Shows x child := by
  cases child with
  | markup html =>
    cases x with
    | text s =>
      cases h
      rfl
    | host => cases h
  | host i =>
    have hhost := List.getElem?_eq_getElem (hknown i rfl)
    simp only [piece, Nat.not_lt_zero, if_false, hhost, contents_eq hhost] at h
    cases x with
    | text => cases h
    | host tag inner closed =>
      simp only [Piece.ofFragment, Piece.fresh.injEq, Contents.read, Contents.mk.injEq,
        String.toList_ofList] at h
      exact ⟨_, hhost, h⟩

theorem forall₂_shows {l : List Fragment} {children : List Child}
    (h : children.map (p.piece 0) = l.map Piece.ofFragment)
    (hknown : ∀ i, .host i ∈ children → i < p.hosts.length) :
    List.Forall₂ p.Shows l children := by
  induction l generalizing children with
  | nil =>
    obtain rfl : children = [] := by simpa using h
    exact .nil
  | cons x l ih =>
    obtain ⟨child, rest, rfl, hchild, hrest⟩ := List.map_eq_cons_iff.1 h
    refine .cons (shows_of_piece hchild fun i hi => hknown i ?_) (ih hrest fun i hi => hknown i ?_)
    · exact hi ▸ List.mem_cons_self
    · exact List.mem_cons_of_mem _ hi

/-- `modifyDocument` preserves `Shows`. -/
theorem shows_modifyDocument (p : Page) (d : DocumentId) (change : Document → Document) :
    (p.modifyDocument d change).Shows = p.Shows := by
  funext x child
  cases x <;> cases child <;> rfl

/-- `appendMarkup` appends children that show its fragments. -/
theorem appendMarkup_shows (hdoc : p.document? d = some doc) (markup : String) :
    ∃ new, (p.appendMarkup d markup).document? d =
        some { doc with children := doc.children ++ new } ∧
      List.Forall₂ (p.appendMarkup d markup).Shows (fragments markup.toList) new := by
  have hpieces := p.addFragments_pieces d (fragments markup.toList) (Nat.zero_le _)
  have hnew := (addFragments_kept d p (fragments markup.toList)).2
  have hdocuments := addFragments_documents d p (fragments markup.toList)
  unfold appendMarkup
  generalize addFragments d p (fragments markup.toList) = made at hpieces hnew hdocuments
  have hsame : made.1.document? d = some doc := by
    rw [document?, hdocuments]
    exact hdoc
  refine ⟨made.2, ?_, ?_⟩
  · rw [document?_modifyDocument, if_pos rfl, hsame]
    rfl
  · rw [shows_modifyDocument]
    exact forall₂_shows hpieces fun i hi => (hnew i hi).2

/-! ## Writing and reading -/

/-- `childHtml` of a child that shows `x` is the source of `x.rewritten`. -/
theorem Shows.toList_childHtml (h : p.Shows x child) :
    (p.childHtml child).toList = x.rewritten.source := by
  cases x with
  | text s =>
    cases child with
    | markup html =>
      obtain rfl : html = String.ofList s := h
      simp [childHtml, Fragment.rewritten, Fragment.source]
    | host => cases h
  | host tag inner closed =>
    cases child with
    | markup => cases h
    | host i =>
      obtain ⟨host, hhost, hattributes, hinner, -⟩ := h
      simp [childHtml, outerHtml, hhost, hattributes, hinner, toList_hostHtml, Fragment.rewritten,
        Fragment.source]

/-- A child that shows `x` resembles one that shows `x.rewritten`. -/
theorem Shows.resembles (h : p.Shows x child) (h' : q.Shows x.rewritten child')
    (hx : x.Unquoted) : Resembles p q child child' := by
  cases x with
  | text s =>
    cases child with
    | host => cases h
    | markup html =>
      cases child' with
      | host => cases h'
      | markup html' => exact h'.trans h.symm
  | host tag inner closed =>
    cases child with
    | markup => cases h
    | host i =>
      cases child' with
      | markup => cases h'
      | host i' =>
        obtain ⟨host, hhost, hattributes, hinner, hform⟩ := h
        obtain ⟨host', hhost', hattributes', hinner', hform'⟩ := h'
        refine ⟨host, host', hhost, hhost', ?_, hinner'.trans hinner.symm, hform'.trans hform.symm⟩
        rw [hattributes', hattributes, readAttributes_attributesText hx]

/-- `childHtml` is equal for children that resemble each other. -/
theorem Resembles.childHtml_eq (h : Resembles p q child child') :
    q.childHtml child' = p.childHtml child := by
  cases child with
  | markup html =>
    cases child' with
    | markup html' => exact h
    | host => cases h
  | host i =>
    cases child' with
    | markup => cases h
    | host i' =>
      obtain ⟨host, host', hhost, hhost', hattributes, hinner, -⟩ := h
      simp [childHtml, outerHtml, hhost, hhost', hattributes, hinner]

/-- `childHtml` of children that show fragments, joined. -/
theorem toList_join_of_shows {l : List Fragment} {children : List Child}
    (h : List.Forall₂ p.Shows l children) :
    (String.join (children.map p.childHtml)).toList = l.flatMap fun x => x.rewritten.source := by
  rw [String.toList_join, List.flatMap_map]
  induction h with
  | nil => rfl
  | cons hchild _ ih => rw [List.flatMap_cons, List.flatMap_cons, hchild.toList_childHtml, ih]

theorem forall₂_resembles {l : List Fragment} {children children' : List Child}
    (h : List.Forall₂ p.Shows l children)
    (h' : List.Forall₂ q.Shows (l.map Fragment.rewritten) children')
    (hl : ∀ x ∈ l, x.Unquoted) : List.Forall₂ (Resembles p q) children children' := by
  induction h generalizing children' with
  | nil =>
    cases h'
    exact .nil
  | cons hchild _ ih =>
    cases h' with
    | cons hchild' hrest' =>
      exact .cons (hchild.resembles hchild' (hl _ List.mem_cons_self))
        (ih hrest' fun x hx => hl x (List.mem_cons_of_mem _ hx))

theorem map_childHtml_of_resembles {children children' : List Child}
    (h : List.Forall₂ (Resembles p q) children children') :
    children'.map q.childHtml = children.map p.childHtml := by
  induction h with
  | nil => rfl
  | cons hchild _ ih => rw [List.map_cons, List.map_cons, hchild.childHtml_eq, ih]

/-- Let markup be appended to an empty document, where no attribute value of a top-level host has a
double quote. If the markup of that document is appended to another empty document, on the same page
or on another one, then the two documents have the same number of children, which resemble each
other in order. So both documents have the same markup. -/
theorem written_document_reads_back {markup : String} {doc' : Document}
    (hquote : ∀ tag inner closed, .host tag inner closed ∈ fragments markup.toList →
      ∀ a ∈ readAttributes tag, '"' ∉ a.2.toList)
    (hdoc : p.document? d = some doc) (hempty : doc.children = [])
    (hdoc' : q.document? e = some doc') (hempty' : doc'.children = []) :
    ∃ (first second : Page) (read reread : Document),
      p.appendMarkup d markup = first ∧ first.document? d = some read ∧
      q.appendMarkup e (first.html d) = second ∧ second.document? e = some reread ∧
      List.Forall₂ (Resembles first second) read.children reread.children ∧
      second.html e = first.html d := by
  have hunquoted : ∀ x ∈ fragments markup.toList, x.Unquoted := by
    intro x hx
    cases x with
    | text => trivial
    | host tag inner closed => exact hquote tag inner closed hx
  obtain ⟨children, hread, hshows⟩ := appendMarkup_shows hdoc markup
  generalize p.appendMarkup d markup = first at hread hshows ⊢
  obtain ⟨children', hreread, hshows'⟩ := appendMarkup_shows hdoc' (first.html d)
  generalize hsecond : q.appendMarkup e (first.html d) = second at hreread hshows'
  rw [hempty, List.nil_append] at hread
  rw [hempty', List.nil_append] at hreread
  have hfirst : first.html d = String.join (children.map first.childHtml) := html_eq_join hread
  have hsecond' : second.html e = String.join (children'.map second.childHtml) :=
    html_eq_join hreread
  rw [hfirst, toList_join_of_shows hshows, fragments_rewritten hunquoted] at hshows'
  have hsame := forall₂_resembles hshows hshows' hunquoted
  refine ⟨first, second, _, _, rfl, hread, hsecond, hreread, hsame, ?_⟩
  rw [hfirst, hsecond', map_childHtml_of_resembles hsame]

/-- A tag with upper-case letters, single quotes, a name that looks like a tag and a slash, on a
host that is not closed. It has a form, and its contents end in the beginning of a closing tag. -/
theorem written_document_reads_back_respelled :
    ∃ (markup : String) (first second : Page) (read reread : Document),
      markup = "a<ajax-form SWAP='b c' x <ajax-form/><form action='/s'></form></ajax-form" ∧
      (∀ tag inner closed, .host tag inner closed ∈ fragments markup.toList →
        ∀ a ∈ readAttributes tag, '"' ∉ a.2.toList) ∧
      ({} : Page).document? 0 = some {} ∧
      ({} : Page).appendMarkup 0 markup = first ∧ first.document? 0 = some read ∧
      first.html 0 = "a<ajax-form swap=\"b c\" x <ajax-form><form action='/s'></form>" ++
        "</ajax-form</ajax-form>" ∧
      read.children = [.markup "a", .host 0] ∧
      ((first.queryForm 0).bind first.formData?).map (·.action) = some "/s" ∧
      ({} : Page).appendMarkup 0 (first.html 0) = second ∧ second.document? 0 = some reread ∧
      List.Forall₂ (Resembles first second) read.children reread.children ∧
      second.html 0 = first.html 0 := by
  obtain ⟨markup, hmarkup⟩ : ∃ markup, markup =
      "a<ajax-form SWAP='b c' x <ajax-form/><form action='/s'></form></ajax-form" := ⟨_, rfl⟩
  have hfragments : fragments markup.toList =
      [.text "a".toList,
        .host " SWAP='b c' x <ajax-form/".toList
          "<form action='/s'></form></ajax-form".toList false] := by
    rw [hmarkup]
    decide +kernel
  have hattributes : readAttributes " SWAP='b c' x <ajax-form/".toList =
      [("swap", "b c"), ("x", ""), ("<ajax-form", "")] := by
    decide +kernel
  have hquote : ∀ tag inner closed, .host tag inner closed ∈ fragments markup.toList →
      ∀ a ∈ readAttributes tag, '"' ∉ a.2.toList := by
    intro tag inner closed hmem
    rw [hfragments] at hmem
    obtain ⟨rfl, -, -⟩ : tag = " SWAP='b c' x <ajax-form/".toList ∧
        inner = "<form action='/s'></form></ajax-form".toList ∧ closed = false := by
      simpa using hmem
    rw [hattributes]
    decide
  obtain ⟨hhtml, hchildren, hform⟩ : (({} : Page).appendMarkup 0 markup).html 0 =
        "a<ajax-form swap=\"b c\" x <ajax-form><form action='/s'></form>" ++
          "</ajax-form</ajax-form>" ∧
      ((({} : Page).appendMarkup 0 markup).document? 0).map (·.children) =
        some [.markup "a", .host 0] ∧
      (((({} : Page).appendMarkup 0 markup).queryForm 0).bind
        (({} : Page).appendMarkup 0 markup).formData?).map (·.action) = some "/s" := by
    rw [hmarkup]
    decide +kernel
  obtain ⟨first, second, read, reread, rfl, hread, hsecond, hreread, hsame, hwritten⟩ :=
    written_document_reads_back (p := {}) (q := {}) (d := 0) (e := 0) hquote rfl rfl rfl rfl
  rw [hread, Option.map_some, Option.some.injEq] at hchildren
  exact ⟨markup, _, second, read, reread, hmarkup, hquote, rfl, rfl, hread, hhtml, hchildren, hform,
    hsecond, hreread, hsame, hwritten⟩

end Page

end FormSwap
