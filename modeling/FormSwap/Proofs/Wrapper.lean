import FormSwap.Proofs.Depict
import FormSwap.Proofs.Mounting
import FormSwap.Proofs.OpenTag

/-!
# Wrapped markup

`Config.wrap` wraps markup in a host that carries a configuration. `fragments` splits the wrapper
into its parts for all contents without a closing tag: opening tags, quotes and the beginning of a
closing tag do not matter. A component on the host then has the configuration that was written.

Main results:

- `Markup.fragments_wrap`: a wrapper is one host with the wrapped markup as its contents
- `Page.appendMarkup_wrap`: the page after a wrapper was appended to a document
- `Page.wrapped_markup_mounts`: a component on the host has the configuration and the form
-/

namespace FormSwap

namespace Text

/-- `cutPiece?` finds a piece after a text without it. No occurrence overlaps the two, because the
first character of the piece does not occur again in it. -/
theorem cutPiece?_append {x : Char} {piece s : List Char} (hx : x ∉ piece)
    (hs : ¬ x :: piece <:+: s) (rest : List Char) :
    cutPiece? (x :: piece) (s ++ (x :: piece ++ rest)) = some (s, rest) := by
  induction s with
  | nil =>
    have hdrop : dropPiece? (x :: piece) (x :: (piece ++ rest)) = some rest :=
      dropPiece?_eq_some_iff.2 rfl
    rw [List.nil_append, List.cons_append, cutPiece?, hdrop]
  | cons c s ih =>
    have hdrop : dropPiece? (x :: piece) (c :: (s ++ (x :: piece ++ rest))) = none := by
      rw [Option.eq_none_iff_forall_ne_some]
      intro after hafter
      have heq : (c :: s) ++ (x :: piece ++ rest) = (x :: piece) ++ after :=
        dropPiece?_eq_some_iff.1 hafter
      rcases List.append_eq_append_iff.1 heq with ⟨shared, hpiece, hrest⟩ | ⟨more, htext, -⟩
      · cases shared with
        | nil => exact hs (by rw [hpiece, List.append_nil])
        | cons y shared =>
          -- the piece would contain its first character again
          have hy : x = y := (List.cons.inj hrest).1
          have hmem : piece = s ++ y :: shared := (List.cons.inj hpiece).2
          exact hx (by simp [hmem, hy])
      · exact hs ⟨[], more, by simpa using htext.symm⟩
    have htail : ¬ x :: piece <:+: s := fun h => hs (h.trans (List.suffix_cons c s).isInfix)
    rw [List.cons_append, cutPiece?, hdrop]
    simp only [ih htail, Option.map_some]

end Text

namespace Markup

theorem toList_closeTag : Config.closeTag.toList = hostClosing := by
  decide

/-- `fragments` of a wrapper is one host. -/
theorem fragments_wrap (c : Config) {inner : String}
    (hinner : ¬ Config.closeTag.toList <:+: inner.toList) :
    fragments (c.wrap inner).toList = [.host c.tagText inner.toList true] := by
  rw [toList_closeTag] at hinner
  have htext : (c.wrap inner).toList =
      c.openTag.toList ++ (inner.toList ++ (hostClosing ++ [])) := by
    simp [Config.wrap, toList_closeTag]
  -- the closing tag starts with its only `<`
  have hclose : Text.cutPiece? hostClosing (inner.toList ++ (hostClosing ++ [])) =
      some (inner.toList, []) :=
    Text.cutPiece?_append (by decide) hinner []
  have hrest : fragments [] = [] := by
    rw [fragments_eq]
    rfl
  rw [htext, fragments_eq, c.cutTag?_openTag]
  simp only [hclose, hrest]
  rfl

end Markup

namespace Page

open FormSwap.Markup

variable {p : Page} {d : DocumentId} {c : Config} {inner : String}

/-- `appendMarkup` of a wrapper adds one host at the end of the document. -/
theorem appendMarkup_wrap (p : Page) (d : DocumentId) (c : Config)
    (hinner : ¬ Config.closeTag.toList <:+: inner.toList) :
    p.appendMarkup d (c.wrap inner) =
      ((p.readContent inner).1.addHost
        { attributes := readAttributes c.tagText
          content := (p.readContent inner).2
          parent := some d }).1.modifyDocument d fun doc =>
            { doc with children := doc.children ++ [.host p.hosts.length] } := by
  have hhosts := (p.readContent_tree inner).2.1
  unfold appendMarkup
  rw [fragments_wrap c hinner]
  simp only [addFragments, String.ofList_toList, addHost, hhosts]

/-- `create` on a host with the attributes of `openTag` logs nothing. -/
theorem create_of_openTag {q : Page} {h : HostId} {host : Host} (hhost : q.hosts[h]? = some host)
    (htag : host.attributes = readAttributes c.tagText)
    (hlimit : c.delay.millis ≤ maxDelayMillis) :
    q.create h = .ok (q.createWith h { c with delay := .ofMillis c.delay.millis }) := by
  have hattributes : q.getAttribute h = lookup (readAttributes c.tagText) := by
    funext name
    simp [getAttribute, hhost, htag]
  unfold create
  rw [hattributes, c.ofAttributes_openTag, if_pos hlimit]
  rfl

/-- `readContent` has the markup and the form that `readForm?` finds, without listeners. -/
theorem readContent_form (p : Page) (markup : String) :
    ∃ found, (p.readContent markup).2 = .markup markup found ∧
      found.isSome = (readForm? markup.toList).isSome ∧
      ∀ f, found = some f → ∃ data, readForm? markup.toList = some data ∧
        (p.readContent markup).1.forms[f]? = some { data } := by
  unfold readContent
  split
  · rename_i hnone
    exact ⟨none, rfl, by rw [hnone]; rfl, nofun⟩
  · rename_i data hsome
    refine ⟨some p.forms.length, rfl, by rw [hsome]; rfl, fun f hf => ⟨data, hsome, ?_⟩⟩
    cases hf
    simp [addForm]

/-- `attach` binds a new component to the form in its host: the component has the form and the
handle of the form's last listener. -/
theorem attach_createWith_ok {q : Page} {h : HostId} {config : Config}
    (hq : (p.createWith h config).1.attach p.components.length = .ok q) :
    ∃ f, p.queryForm h = some f ∧
      q.component? p.components.length = some
        { host := h, config, form := some f, listener := some ⟨f, p.nextListener f⟩ } ∧
      ∀ form, p.forms[f]? = some form → q.listenersOf f =
        form.listeners ++ [⟨form.nextListener, .component p.components.length⟩] := by
  rw [attach_createWith] at hq
  cases hf : p.queryForm h with
  | none =>
    rw [hf] at hq
    cases hq
  | some f =>
    rw [hf] at hq
    dsimp only at hq
    split at hq
    · cases hq
    · cases hq
      refine ⟨f, rfl, ?_, fun form hform => ?_⟩
      · rw [component?_of_append (p := p) rfl, if_pos rfl]
        rfl
      · simp only [listenersOf, List.getElem?_modify_eq, hform]
        rfl

/-- A wrapper that is appended to a document is one more host there, with the wrapped markup as its
contents. `create` on it succeeds without a notice and yields the configuration that was written,
with the delay cut to whole milliseconds. `attach` succeeds exactly if the contents have a form.
Then the component has that form, and its listener is the form's only one. -/
theorem wrapped_markup_mounts {doc : Document} (hdoc : p.document? d = some doc)
    (hlimit : c.delay.millis ≤ maxDelayMillis)
    (hinner : ¬ Config.closeTag.toList <:+: inner.toList) :
    ∃ (q r : Page) (h : HostId) (host : Host) (i : ComponentId) (k : Component),
      p.appendMarkup d (c.wrap inner) = q ∧
      (q.document? d).map (·.children) = some (doc.children ++ [.host h]) ∧
      q.hosts[h]? = some host ∧ host.connected = true ∧ host.parent = some d ∧
      q.innerHtml h = inner ∧
      q.create h = .ok (r, i) ∧ r.notices = p.notices ∧
      r.component? i = some k ∧ k.host = h ∧
      k.config = { c with delay := .ofMillis c.delay.millis } ∧
      ((∃ n, c.delay = .ofMillis n) → k.config = c) ∧
      (r.attach i).isOk = ((readForm? inner.toList).isSome && !p.fails .addSubmitListener) ∧
      ∀ z, r.attach i = .ok z → ∃ f data, readForm? inner.toList = some data ∧
        q.queryForm h = some f ∧ q.forms[f]? = some { data } ∧
        z.component? i = some { k with form := some f, listener := some ⟨f, 0⟩ } ∧
        z.listenersOf f = [⟨0, .component i⟩] := by
  have hpage := appendMarkup_wrap p d c hinner
  obtain ⟨hdocuments, hhosts, hfaults⟩ := p.readContent_tree inner
  obtain ⟨_, _, _, honly⟩ := (p.readContent_kept inner).1.only
  obtain ⟨found, hcontent, hfound, hform⟩ := p.readContent_form inner
  rw [hcontent] at hpage
  generalize p.readContent inner = read at hpage hdocuments hhosts hfaults honly hform
  generalize p.appendMarkup d (c.wrap inner) = q at hpage ⊢
  have hhost : q.hosts[p.hosts.length]? = some
      { attributes := readAttributes c.tagText
        content := .markup inner found
        parent := some d } := by
    simp [hpage, modifyDocument, addHost, hhosts]
  have hchildren : (q.document? d).map (·.children) =
      some (doc.children ++ [.host p.hosts.length]) := by
    have hsame : (read.1.addHost
        { attributes := readAttributes c.tagText
          content := .markup inner found
          parent := some d }).1.document? d = some doc := by
      rw [← hdoc, document?, document?, ← hdocuments]
      rfl
    rw [hpage, document?_modifyDocument, if_pos rfl, hsame]
    rfl
  have hquiet : q.notices = p.notices := by
    rw [hpage]
    simp [modifyDocument, addHost, honly]
  have hfails : q.fails .addSubmitListener = p.fails .addSubmitListener := by
    simp [fails, hpage, modifyDocument, addHost, hfaults]
  refine ⟨q, (q.createWith p.hosts.length { c with delay := .ofMillis c.delay.millis }).1,
    p.hosts.length, _, q.components.length,
    { host := p.hosts.length, config := { c with delay := .ofMillis c.delay.millis } },
    rfl, hchildren, hhost, rfl, rfl, ?_, create_of_openTag hhost rfl hlimit, hquiet, ?_, rfl, rfl,
    ?_, ?_, fun z hz => ?_⟩
  · simp [innerHtml, hhost]
  · rw [component?_of_append (p := q) rfl, if_pos rfl]
  · rintro ⟨n, hn⟩
    rw [hn, Duration.millis_ofMillis, ← hn]
  · rw [attach_createWith_isOk hhost, ← hfound, hfails]
    rfl
  · -- the form is new, so it has no other listener
    obtain ⟨f, hf, hk, hlisteners⟩ := attach_createWith_ok hz
    have hfound' : found = some f := by rwa [queryForm, hhost] at hf
    obtain ⟨data, hdata, hread⟩ := hform f hfound'
    have hnew : q.forms[f]? = some { data } := by
      rw [hpage]
      exact hread
    have hnext : q.nextListener f = 0 := by simp [nextListener, hnew]
    rw [hnext] at hk
    exact ⟨f, data, hdata, hf, hnew, hk, hlisteners _ hnew⟩

/-- The largest delay, around markup with an opening tag, a quote, a form and the beginning of a
closing tag. -/
theorem wrapped_markup_mounts_at_limit :
    ({} : Page).document? 0 = some {} ∧
    (Duration.ofMillis maxDelayMillis).millis ≤ maxDelayMillis ∧
    ¬ Config.closeTag.toList <:+: "<ajax-form>'<form></ajax-form".toList ∧
    ∃ (q r : Page) (h : HostId) (i : ComponentId) (k : Component),
      ({} : Page).appendMarkup 0 (({ delay := .ofMillis maxDelayMillis, swap := .inner } :
        Config).wrap "<ajax-form>'<form></ajax-form") = q ∧
      (q.document? 0).map (·.children) = some [.host h] ∧
      q.innerHtml h = "<ajax-form>'<form></ajax-form" ∧
      q.create h = .ok (r, i) ∧ r.notices = [] ∧ r.component? i = some k ∧
      k.config = { delay := .ofMillis maxDelayMillis, swap := .inner } ∧
      ∃ z f, r.attach i = .ok z ∧ q.queryForm h = some f ∧
        z.listenersOf f = [⟨0, .component i⟩] := by
  have hlimit : (Duration.ofMillis maxDelayMillis).millis ≤ maxDelayMillis :=
    Nat.le_of_eq (Duration.millis_ofMillis _)
  have hinner : ¬ Config.closeTag.toList <:+: "<ajax-form>'<form></ajax-form".toList := by
    decide +kernel
  obtain ⟨q, r, h, host, i, k, hq, hchildren, -, -, -, hhtml, hcreate, hquiet, hk, -, -, hconfig,
    hattach, hattached⟩ := wrapped_markup_mounts (p := {}) (d := 0)
      (c := { delay := .ofMillis maxDelayMillis, swap := .inner }) rfl hlimit hinner
  have hform : (readForm? "<ajax-form>'<form></ajax-form".toList).isSome = true := by
    decide +kernel
  rw [hform] at hattach
  cases hz : r.attach i with
  | error e =>
    rw [hz] at hattach
    cases hattach
  | ok z =>
    obtain ⟨f, -, -, hquery, -, -, hlisteners⟩ := hattached z hz
    exact ⟨rfl, hlimit, hinner, q, r, h, i, k, hq, hchildren, hhtml, hcreate, hquiet, hk,
      hconfig ⟨_, rfl⟩, z, f, hz, hquery, hlisteners⟩

end Page

end FormSwap
