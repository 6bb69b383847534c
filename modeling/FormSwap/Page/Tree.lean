import FormSwap.Page.Basic

/-!
# The DOM of a page

The operations on documents, hosts and forms: insertion and removal of hosts, `innerHTML` and
`outerHTML`, attributes, fields, listeners and events. An operation that fails changes nothing. A
host is connected from its insertion until it is removed or replaced, even if its document is
dropped meanwhile.
-/

namespace FormSwap.Page

open FormSwap.Markup

/-! ## Reading -/

/-- `p.getAttribute h name` is the value of the first attribute of `h` with this name. -/
def getAttribute (p : Page) (h : HostId) (name : String) : Option String :=
  (p.hosts[h]?).bind fun host => lookup host.attributes name

/-- `p.queryForm h` is the form in `h`. -/
def queryForm (p : Page) (h : HostId) : Option FormId :=
  (p.hosts[h]?).bind fun host => host.content.form?

/-- `p.formHtml f` is the markup of the form `f`. -/
def formHtml (p : Page) (f : FormId) : String :=
  ((p.forms[f]?).map fun form => form.data.html).getD ""

/-- `p.innerHtml h` is the markup of the contents of `h`. -/
def innerHtml (p : Page) (h : HostId) : String :=
  match (p.hosts[h]?).map Host.content with
  | some (.form f) => p.formHtml f
  | some (.markup html _) => html
  | none => ""

/-- `p.outerHtml h` is the markup of the host `h`. -/
def outerHtml (p : Page) (h : HostId) : String :=
  hostHtml (((p.hosts[h]?).map (·.attributes)).getD []) (p.innerHtml h)

/-- `p.childHtml child` is the markup of a child node. -/
def childHtml (p : Page) : Child → String
  | .markup html => html
  | .host h => p.outerHtml h

/-- `p.html d` is the markup of the document `d`. -/
def html (p : Page) (d : DocumentId) : String :=
  String.join ((((p.document? d).map (·.children)).getD []).map p.childHtml)

/-- `p.hostsOf d` lists the hosts of the document `d` in order. -/
def hostsOf (p : Page) (d : DocumentId) : List HostId :=
  (((p.document? d).map (·.children)).getD []).filterMap Child.host?

/-- `p.entries f` reads the fields of the form `f`. -/
def entries (p : Page) (f : FormId) : Except DomError (List (String × String)) :=
  if p.fails .entries then .error (.fault .entries)
  else .ok (((p.forms[f]?).map (·.data.fields)).getD [])

/-! ## Construction -/

/-- `p.addDocument` adds an empty document. -/
def addDocument (p : Page) : Page × DocumentId :=
  ({ p with documents := p.documents ++ [some {}] }, p.documents.length)

/-- `p.addForm data` adds a form. -/
def addForm (p : Page) (data : FormData) : Page × FormId :=
  ({ p with forms := p.forms ++ [{ data }] }, p.forms.length)

/-- `p.addHost host` adds a host. -/
def addHost (p : Page) (host : Host) : Page × HostId :=
  ({ p with hosts := p.hosts ++ [host] }, p.hosts.length)

/-- `p.readContent markup` parses the contents of a host. The form in them, if any, is added. -/
def readContent (p : Page) (markup : String) : Page × Content :=
  match readForm? markup.toList with
  | none => (p, .markup markup none)
  | some data =>
    let (p, f) := p.addForm data
    (p, .markup markup (some f))

/-- `addFragments d p l` adds the hosts that the fragments `l` describe, connected to `d`. It
returns the page and the child nodes. -/
def addFragments (d : DocumentId) : Page → List Fragment → Page × List Child
  | p, [] => (p, [])
  | p, .text s :: rest =>
    let (p, children) := addFragments d p rest
    (p, .markup (String.ofList s) :: children)
  | p, .host tag inner _ :: rest =>
    let (p, content) := p.readContent (String.ofList inner)
    let (p, h) := p.addHost { attributes := readAttributes tag, content, parent := some d }
    let (p, children) := addFragments d p rest
    (p, .host h :: children)

/-! ## Documents -/

/-- `p.dropDocument d` drops the document `d`. Its hosts stay connected. -/
def dropDocument (p : Page) (d : DocumentId) : Page :=
  { p with documents := p.documents.set d none }

/-- `p.append d h` appends `h` to the children of `d` and connects it. -/
def append (p : Page) (d : DocumentId) (h : HostId) : Page :=
  (p.modifyHost h fun host => { host with parent := some d }).modifyDocument d fun doc =>
    { doc with children := doc.children ++ [.host h] }

/-- `p.remove d h` removes `h` from the children of `d` and disconnects it. -/
def remove (p : Page) (d : DocumentId) (h : HostId) : Page :=
  (p.modifyDocument d fun doc =>
    { doc with children := doc.children.filter fun child => child != .host h }).modifyHost h
      fun host => { host with parent := none }

/-- `p.appendMarkup d markup` parses `markup` and appends its nodes to `d`. -/
def appendMarkup (p : Page) (d : DocumentId) (markup : String) : Page :=
  let (p, children) := addFragments d p (fragments markup.toList)
  p.modifyDocument d fun doc => { doc with children := doc.children ++ children }

/-- `p.dispatchDocument d n` dispatches `n` on the document `d`. -/
def dispatchDocument (p : Page) (d : DocumentId) (n : Notification) : Page :=
  p.modifyDocument d fun doc => { doc with events := doc.events ++ [n] }

/-! ## Hosts -/

/-- `setIn name value l` sets the first attribute with this name, or appends one. -/
def setIn (name value : String) : List (String × String) → List (String × String)
  | [] => [(name, value)]
  | a :: rest => if a.1 = name then (name, value) :: rest else a :: setIn name value rest

/-- `p.setAttribute h name value` sets an attribute of `h`. -/
def setAttribute (p : Page) (h : HostId) (name value : String) : Except DomError Page :=
  if p.fails .setAttribute then .error (.fault .setAttribute)
  else .ok (p.modifyHost h fun host => { host with attributes := setIn name value host.attributes })

/-- `p.removeAttribute h name` removes every attribute of `h` with this name. -/
def removeAttribute (p : Page) (h : HostId) (name : String) : Except DomError Page :=
  if p.fails .removeAttribute then .error (.fault .removeAttribute)
  else .ok (p.modifyHost h fun host =>
    { host with attributes := host.attributes.filter fun a => a.1 != name })

/-- `p.setInnerHtml h markup` replaces the contents of `h`. -/
def setInnerHtml (p : Page) (h : HostId) (markup : String) : Except DomError Page :=
  if p.fails .setInnerHtml then .error (.fault .setInnerHtml)
  else
    let (p, content) := p.readContent markup
    .ok (p.modifyHost h fun host => { host with content })

/-- `splice h new children` replaces the first occurrence of `h` in `children` by `new`. -/
def splice (h : HostId) (new : List Child) : List Child → List Child
  | [] => []
  | child :: rest => if child = .host h then new ++ rest else child :: splice h new rest

/-- `Replacement` is the result of `setOuterHtml`: the page, the inserted hosts, and the parent. -/
structure Replacement where
  page : Page
  inserted : List HostId
  parent : DocumentId

/-- `p.setOuterHtml h markup` replaces `h` in its document by the nodes of `markup`. It fails unless
`h` is a child of a document that was not dropped. -/
def setOuterHtml (p : Page) (h : HostId) (markup : String) : Except DomError Replacement :=
  if p.fails .setOuterHtml then .error (.fault .setOuterHtml)
  else
    match (p.hosts[h]?).bind (·.parent) with
    | none => .error .noParent
    | some d =>
      match p.document? d with
      | none => .error .noParent
      | some doc =>
        if doc.children.contains (.host h) then
          let (q, children) := addFragments d p (fragments markup.toList)
          .ok {
            page :=
              (q.modifyDocument d fun doc =>
                { doc with children := splice h children doc.children }).modifyHost h
                  fun host => { host with parent := none }
            inserted := children.filterMap Child.host?
            parent := d }
        else .error .notAChild

/-- `p.dispatchHost h n` dispatches `n` on `h`; it bubbles to the document of `h`. -/
def dispatchHost (p : Page) (h : HostId) (n : Notification) : Except DomError Page :=
  match p.hosts[h]? with
  | none => .ok p
  | some host =>
    if host.rejecting then .error .eventRejected
    else
      let p := p.modifyHost h fun host => { host with dispatched := host.dispatched ++ [n] }
      match host.parent with
      | some d => .ok (p.dispatchDocument d n)
      | none => .ok p

/-! ## Forms -/

/-- `p.addField f name value` appends a field to the form `f`. -/
def addField (p : Page) (f : FormId) (name value : String) : Page :=
  p.modifyForm f fun form =>
    { form with data := { form.data with fields := form.data.fields ++ [(name, value)] } }

/-- `changeIn name value l` changes the first pair with this name, if there is one. -/
def changeIn (name value : String) : List (String × String) → List (String × String)
  | [] => []
  | a :: rest => if a.1 = name then (name, value) :: rest else a :: changeIn name value rest

/-- `p.setField f name value` changes the first field of `f` with this name, if there is one. -/
def setField (p : Page) (f : FormId) (name value : String) : Page :=
  p.modifyForm f fun form =>
    { form with data := { form.data with fields := changeIn name value form.data.fields } }

/-- `p.addListener f role` appends a listener to the form `f` and returns its handle. -/
def addListener (p : Page) (f : FormId) (role : ListenerRole) :
    Except DomError (Page × ListenerRef) :=
  if p.fails .addSubmitListener then .error (.fault .addSubmitListener)
  else
    let id := ((p.forms[f]?).map (·.nextListener)).getD 0
    .ok (p.modifyForm f fun form =>
      { form with
        listeners := form.listeners ++ [{ id, role }]
        nextListener := form.nextListener + 1 }, { form := f, id })

/-- `p.removeListener l` removes the listener of the handle `l`. -/
def removeListener (p : Page) (l : ListenerRef) : Page :=
  p.modifyForm l.form fun form =>
    { form with listeners := form.listeners.filter fun listener => listener.id != l.id }

end FormSwap.Page
