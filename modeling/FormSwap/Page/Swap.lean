import FormSwap.Page.Lifecycle

/-!
# Swaps

`applyResponse` puts the markup of a successful response into the page. An inner swap replaces the
contents of the host, and the component rebinds to the form in them. An outer swap replaces the
host; the component releases its form, and a new component is mounted on every host in the markup.
Both dispatch a `Notification`.
-/

namespace FormSwap.Page

/-- `p.rebind c h` releases the form of `c` and listens to the form that `h` holds now. -/
def rebind (p : Page) (c : ComponentId) (h : HostId) : Page :=
  let p := p.releaseForm c
  match p.queryForm h with
  | none => p.note .formless
  | some f =>
    match p.listen c f with
    | .ok p => p
    | .error e => p.note (.notRebound e)

/-- `adopt c p hosts` mounts a component on each of `hosts` and appends those that mount to the
replacements of `c`. -/
def adopt (c : ComponentId) : Page → List HostId → Page
  | p, [] => p
  | p, h :: rest =>
    match p.mount h with
    | (p, .ok r) =>
      adopt c (p.modifyComponent c fun comp =>
        { comp with replacements := comp.replacements ++ [r] }) rest
    | (p, .error e) => adopt c (p.note (.notMounted e)) rest

/-- `p.swapOuter c h body n` replaces the host `h` by `body` and dispatches `n` on its document. -/
def swapOuter (p : Page) (c : ComponentId) (h : HostId) (body : String) (n : Notification) :
    Except DomError Page :=
  match p.setOuterHtml h body with
  | .error e => .error e
  | .ok r =>
    let p := r.page.modifyComponent c fun comp => { comp with detached := true }
    let p := p.releaseForm c
    let p := adopt c p r.inserted
    .ok (p.dispatchDocument r.parent n)

/-- `p.swapInner c h body n` replaces the contents of `h` by `body` and dispatches `n` on `h`. -/
def swapInner (p : Page) (c : ComponentId) (h : HostId) (body : String) (n : Notification) :
    Except DomError Page :=
  match p.setInnerHtml h body with
  | .error e => .error e
  | .ok p =>
    let p := p.rebind c h
    match p.dispatchHost h n with
    | .ok p => .ok p
    | .error e => .ok (p.note (.notDispatched e))

/-- `p.applyResponse c body n` swaps `body` in as configured. It fails if the host of `c` is not
connected. -/
def applyResponse (p : Page) (c : ComponentId) (body : String) (n : Notification) :
    Except SubmitError Page :=
  match p.component? c with
  | none => .error .detached
  | some comp =>
    if ((p.hosts[comp.host]?).map Host.connected).getD false then
      let swapped :=
        match comp.config.swap with
        | .outer => p.swapOuter c comp.host body n
        | .inner => p.swapInner c comp.host body n
      match swapped with
      | .ok p => .ok p
      | .error e => .error (.dom e)
    else .error .detached

end FormSwap.Page
