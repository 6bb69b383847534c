import FormSwap.Page.Action
import FormSwap.Proofs.Partition
import FormSwap.Proofs.WrittenTag

/-!
# Writing and reading a form

`FormData.html` writes a form as a tag with its action and method, an input for each field, and a
closing tag. The reader searches for these as plain text, and the texts of the form may contain any
of them. This does not matter if the texts have no `>`: each tag that is found is a whole tag that
was written, and the closing tag is found only where it was written, because it has a letter before
its `>`, while all tags before it have a quote.

Main definitions:

- `Markup.FormData.Plain`: the texts of a form have neither double quotes nor `>`

Main results:

- `Markup.readFields_inputs`: `readFields` of the inputs is the fields
- `Markup.readForm?_html`: `readForm?` of a form among other markup is the form
- `Page.written_form_reads_back`: a host submits the same after its contents were written and read
-/

namespace FormSwap

namespace Markup

open FormSwap.Text

/-! ## Quoted texts -/

/-- `Quotable s`: `s` has neither double quotes nor `>`. -/
def Quotable (s : String) : Prop :=
  '"' ∉ s.toList ∧ '>' ∉ s.toList

instance : DecidablePred Quotable :=
  fun s => inferInstanceAs (Decidable ('"' ∉ s.toList ∧ '>' ∉ s.toList))

/-- `f.Plain`: the texts of the form are `Quotable`. -/
structure FormData.Plain (f : FormData) : Prop where
  action : Quotable f.action
  method : Quotable f.method
  fields : ∀ field ∈ f.fields, Quotable field.1 ∧ Quotable field.2

/-- `pairText name value name' value'` is two attributes in double quotes, as in the tags of forms
and inputs. -/
def pairText (name value name' value' : String) : List Char :=
  ' ' :: (name.toList ++ '=' :: '"' :: (value.toList ++ '"' ::
    ' ' :: (name'.toList ++ '=' :: '"' :: (value'.toList ++ ['"']))))

section PairText

variable {name value name' value' : String}

theorem readAttributes_pairText (hname : IsName name.toList) (hname' : IsName name'.toList)
    (hvalue : Quotable value) (hvalue' : Quotable value') :
    readAttributes (pairText name value name' value') = [(name, value), (name', value')] :=
  (Writes.quoted hname hvalue.1 (.quoted hname' hvalue'.1 .nil)).readAttributes_eq

theorem gt_not_mem_pairText (hname : '>' ∉ name.toList) (hname' : '>' ∉ name'.toList)
    (hvalue : Quotable value) (hvalue' : Quotable value') :
    '>' ∉ pairText name value name' value' := by
  simpa [pairText, hname, hname', hvalue.2] using hvalue'.2

/-- `pairText` ends with a quote. -/
theorem exists_pairText_eq (name value name' value' : String) :
    ∃ start, pairText name value name' value' = start ++ ['"'] :=
  ⟨' ' :: (name.toList ++ '=' :: '"' :: (value.toList ++ '"' ::
    ' ' :: (name'.toList ++ '=' :: '"' :: value'.toList))), by simp [pairText]⟩

end PairText

/-! ## Inputs -/

/-- `inputText field` is the text of an input tag after its name. -/
def inputText (field : String × String) : List Char :=
  pairText "name" field.1 "value" field.2

/-- `inputs fields` is the inputs of the fields. -/
def inputs (fields : List (String × String)) : List Char :=
  fields.flatMap fun field => '<' :: "input".toList ++ (inputText field ++ ['>'])

theorem toList_fieldHtml (field : String × String) :
    (fieldHtml field).toList = '<' :: "input".toList ++ (inputText field ++ ['>']) := by
  unfold fieldHtml
  simp only [String.toList_append, inputText, pairText]
  simp

theorem toList_join_fieldHtml (fields : List (String × String)) :
    (String.join (fields.map fieldHtml)).toList = inputs fields := by
  simp only [String.toList_join, List.flatMap_map, toList_fieldHtml, inputs]

theorem inputs_cons (field : String × String) (fields : List (String × String)) :
    inputs (field :: fields) =
      '<' :: "input".toList ++ (inputText field ++ '>' :: inputs fields) := by
  simp [inputs]

variable {field : String × String} {fields : List (String × String)}

theorem gt_not_mem_inputText (hfield : Quotable field.1 ∧ Quotable field.2) :
    '>' ∉ inputText field :=
  gt_not_mem_pairText (by decide) (by decide) hfield.1 hfield.2

/-- `readField` of an input is its field. -/
theorem readField_inputText (hfield : Quotable field.1 ∧ Quotable field.2) :
    readField (inputText field) = some field := by
  have hread : readAttributes (inputText field) = [("name", field.1), ("value", field.2)] :=
    readAttributes_pairText (by decide) (by decide) hfield.1 hfield.2
  unfold readField
  rw [hread]
  rfl

/-- `readFields` of the inputs is the fields. -/
theorem readFields_inputs (hfields : ∀ field ∈ fields, Quotable field.1 ∧ Quotable field.2) :
    readFields (inputs fields) = fields := by
  induction fields with
  | nil =>
    rw [readFields_eq]
    rfl
  | cons field fields ih =>
    have hfield := hfields field List.mem_cons_self
    have hcut : cutTag? "input".toList (inputs (field :: fields)) =
        some ([], inputText field, inputs fields) := by
      rw [inputs_cons]
      exact cutTag?_append (by decide) (gt_not_mem_inputText hfield) _
    have hrest : readFields (inputs fields) = fields :=
      ih fun field hmem => hfields field (List.mem_cons_of_mem _ hmem)
    rw [readFields_eq, hcut]
    simp only [readField_inputText hfield, hrest]
    rfl

/-- Every `>` in `inputs` follows a quote. -/
theorem getLast?_of_inputs_eq (hfields : ∀ field ∈ fields, Quotable field.1 ∧ Quotable field.2)
    {before after : List Char} (h : inputs fields = before ++ '>' :: after) :
    before.getLast? = some '"' := by
  induction fields generalizing before with
  | nil => simp [inputs] at h
  | cons field fields ih =>
    have hgt := gt_not_mem_inputText (hfields field List.mem_cons_self)
    -- the tag up to its own `>`, which has a quote before it
    obtain ⟨tag, htag, hlast⟩ : ∃ tag, '<' :: "input".toList ++ inputText field = tag ∧
        tag.getLast? = some '"' := by
      obtain ⟨start, hstart⟩ := exists_pairText_eq "name" field.1 "value" field.2
      refine ⟨_, rfl, ?_⟩
      rw [inputText, hstart, ← List.append_assoc, List.getLast?_concat]
    have hnot : '>' ∉ tag := by
      rw [← htag]
      simpa using hgt
    have hsplit : tag ++ '>' :: inputs fields = before ++ '>' :: after := by
      rw [← h, inputs_cons, ← htag]
      simp
    rcases List.append_eq_append_iff.1 hsplit with ⟨more, rfl, hrest⟩ | ⟨more, rfl, hrest⟩
    · cases more with
      | nil => simpa using hlast
      | cons c more =>
        obtain ⟨rfl, hlater⟩ := List.cons.inj hrest
        have hmore : more.getLast? = some '"' :=
          ih (fun field hmem => hfields field (List.mem_cons_of_mem _ hmem)) hlater
        cases more with
        | nil => cases hmore
        | cons d more => simpa using hmore
    · cases more with
      | nil => simpa using hlast
      | cons c more =>
        obtain ⟨rfl, -⟩ := List.cons.inj hrest
        exact absurd (by simp) hnot

/-- `inputs` has no closing tag of a form. -/
theorem not_infix_inputs (hfields : ∀ field ∈ fields, Quotable field.1 ∧ Quotable field.2) :
    ¬ "</form>".toList <:+: inputs fields := by
  rintro ⟨before, after, h⟩
  have hsplit : inputs fields = (before ++ "</form".toList) ++ '>' :: after := by
    rw [← h]
    simp
  have hlast := getLast?_of_inputs_eq hfields hsplit
  simp at hlast

/-! ## Forms -/

/-- `f.tagText` is the text of a form tag after its name. -/
def FormData.tagText (f : FormData) : List Char :=
  pairText "action" f.action "method" f.method

theorem FormData.toList_html (f : FormData) :
    f.html.toList = '<' :: "form".toList ++ (f.tagText ++ '>' ::
      (inputs f.fields ++ "</form>".toList)) := by
  unfold html
  simp only [String.toList_append, toList_join_fieldHtml, tagText, pairText]
  simp

/-- `readForm?` of a form among other markup is the form, if no form begins in the text before
it. -/
theorem readForm?_html {f : FormData} (hf : f.Plain) {before : List Char}
    (hbefore : ∀ start rest, ¬ OpeningAt "form".toList before start rest) (after : List Char) :
    readForm? (before ++ f.html.toList ++ after) = some f := by
  have htext : before ++ f.html.toList ++ after = before ++ ('<' :: "form".toList ++
      (f.tagText ++ '>' :: (inputs f.fields ++ ("</form>".toList ++ after)))) := by
    rw [f.toList_html]
    simp
  have hgt : '>' ∉ f.tagText :=
    gt_not_mem_pairText (by decide) (by decide) hf.action hf.method
  have htag : cutTag? "form".toList (before ++ f.html.toList ++ after) =
      some (before, f.tagText, inputs f.fields ++ ("</form>".toList ++ after)) := by
    rw [htext]
    refine cutTag?_append_of_no_opening (by decide) hgt ?_ hbefore _
    intro c hc
    obtain rfl : ' ' = c := by simpa [FormData.tagText, pairText] using hc
    exact .inl (by decide)
  have hclose : cutPiece? "</form>".toList (inputs f.fields ++ ("</form>".toList ++ after)) =
      some (inputs f.fields, after) :=
    cutPiece?_append (by decide) (not_infix_inputs hf.fields) after
  have hread : readAttributes f.tagText = [("action", f.action), ("method", f.method)] :=
    readAttributes_pairText (by decide) (by decide) hf.action hf.method
  unfold readForm?
  rw [htag, Option.map_some]
  dsimp only
  rw [hclose, Option.map_some, Option.getD_some, hread, readFields_inputs hf.fields]
  rfl

end Markup

namespace Page

open FormSwap.Markup

/-- `setInnerHtml` of markup with a form adds the form to the host. -/
theorem setInnerHtml_of_form {p : Page} {h : HostId} {markup : String} {data : FormData}
    (hworks : p.fails .setInnerHtml = false) (hread : readForm? markup.toList = some data) :
    p.setInnerHtml h markup =
      .ok ((p.addForm data).1.modifyHost h fun host =>
        { host with content := .markup markup (some p.forms.length) }) := by
  unfold setInnerHtml readContent
  rw [hworks, if_neg Bool.false_ne_true, hread]
  rfl

/-- A form whose texts have neither double quotes nor `>` is read from its markup unchanged, after
any text in which no form begins and before any text. So if the contents of a host created with the
form are written and read, the new form of the host has the same fields in the same order, and its
submits have the same payload and make the same request, or fail with the same error. -/
theorem written_form_reads_back {f : FormData} (hf : f.Plain) :
    (∀ before after : List Char, (∀ start rest, ¬ OpeningAt "form".toList before start rest) →
      readForm? (before ++ f.html.toList ++ after) = some f) ∧
    ∀ (p : Page) (h : HostId) (host : Host) (id : FormId) (form : Form),
      p.hosts[h]? = some host → host.content = .form id → p.forms[id]? = some form →
      form.data = f → p.fails .setInnerHtml = false →
      ∃ (q : Page) (id' : FormId) (form' : Form),
        p.setInnerHtml h (p.innerHtml h) = .ok q ∧
        q.innerHtml h = p.innerHtml h ∧
        q.queryForm h = some id' ∧ q.forms[id']? = some form' ∧ form'.data = f ∧
        (∀ submitter, q.collectPayload id' submitter = p.collectPayload id submitter) ∧
        ∀ payload, q.requestOf id' payload = p.requestOf id payload := by
  refine ⟨fun before after hbefore => readForm?_html hf hbefore after, ?_⟩
  intro p h host id form hhost hcontent hform hdata hworks
  have hinner : p.innerHtml h = f.html := by
    simp [innerHtml, formHtml, hhost, hcontent, hform, hdata]
  have hread : readForm? f.html.toList = some f := by
    have hempty : ∀ start rest, ¬ OpeningAt "form".toList [] start rest :=
      cutOpening?_eq_none_iff.1 rfl
    simpa using readForm?_html hf hempty []
  have hset := setInnerHtml_of_form (h := h) hworks hread
  rw [← hinner] at hset
  generalize hq : (p.addForm f).1.modifyHost h (fun host =>
    { host with content := .markup (p.innerHtml h) (some p.forms.length) }) = q at hset
  have hcontents : q.hosts[h]? =
      some { host with content := .markup (p.innerHtml h) (some p.forms.length) } := by
    simp [← hq, addForm, modifyHost, hhost]
  have hnew : q.forms[p.forms.length]? = some { data := f } := by
    simp [← hq, addForm, modifyHost]
  have hfails : q.fails .entries = p.fails .entries := by
    rw [← hq]
    rfl
  have hentries : q.entries p.forms.length = p.entries id := by
    simp [entries, hfails, hnew, hform, hdata]
  refine ⟨q, p.forms.length, { data := f }, hset, ?_, ?_, hnew, rfl, fun submitter => ?_,
    fun payload => ?_⟩
  · simp [innerHtml, hcontents]
  · simp [queryForm, hcontents, Content.form?]
  · rw [collectPayload, collectPayload, hentries]
  · simp [requestOf, hnew, hform, hdata]

/-- A form whose texts look like tags, between texts that look like the beginning and the end of a
form. -/
theorem written_form_reads_back_among_lookalikes :
    ∃ (f : FormData) (p : Page),
      f = { action := "<form action='/a'", method := "",
            fields := [("<input ", "a = / b"), ("", "</form"), ("", "</form")] } ∧
      p = performAll {} [.newForm f, .newHost [] (some 0) none false] ∧
      f.Plain ∧ (∀ start rest, ¬ OpeningAt "form".toList "<p><form".toList start rest) ∧
      readForm? ("<p><form".toList ++ f.html.toList ++ "</form><form>".toList) = some f ∧
      p.queryForm 0 = some 0 ∧
      ∃ q id' form', p.setInnerHtml 0 f.html = .ok q ∧ q.queryForm 0 = some id' ∧
        q.forms[id']? = some form' ∧ form'.data = f := by
  obtain ⟨f, hdata⟩ : ∃ f : FormData,
      f = { action := "<form action='/a'", method := "",
            fields := [("<input ", "a = / b"), ("", "</form"), ("", "</form")] } := ⟨_, rfl⟩
  have hf : f.Plain := hdata ▸ ⟨by decide, by decide, by decide⟩
  have hstart : ∀ start rest, ¬ OpeningAt "form".toList "<p><form".toList start rest :=
    cutOpening?_eq_none_iff.1 (by decide)
  obtain ⟨hread, hkept⟩ := written_form_reads_back hf
  obtain ⟨q, id', form', hset, -, hquery, hform, hsame, -⟩ :=
    hkept (performAll {} [.newForm f, .newHost [] (some 0) none false]) 0 { content := .form 0 } 0
      { data := f } rfl rfl rfl rfl rfl
  exact ⟨f, _, hdata, rfl, hf, hstart, hread _ _ hstart, rfl, q, id', form', hset, hquery, hform,
    hsame⟩

end Page

end FormSwap
