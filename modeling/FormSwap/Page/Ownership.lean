import FormSwap.Page.Lifecycle

/-!
# Ownership

A component lives as long as it is owned: by a handle of the user, by the closure of an observer, by
a pipeline of its own that has not finished, or by a living component that it replaces. When its
last owner is gone it is dropped, and its listener is removed.
-/

namespace FormSwap

/-- `l.keeps c` holds if the closure of `l` owns a handle of `c`. -/
def Listener.keeps (l : Listener) (c : ComponentId) : Bool :=
  match l.role with
  | .component _ => false
  | .observer _ reactions => reactions.any fun r => r.keeps == some c

namespace Page

/-- `p.heldByHandle c`: the user has a handle of `c`. -/
def heldByHandle (p : Page) (c : ComponentId) : Bool :=
  p.handles.contains (some c)

/-- `p.heldByListener c`: an observer owns a handle of `c`. -/
def heldByListener (p : Page) (c : ComponentId) : Bool :=
  p.forms.any fun form => form.listeners.any fun l => l.keeps c

/-- `p.heldByPipeline c`: a pipeline of `c` has not finished. -/
def heldByPipeline (p : Page) (c : ComponentId) : Bool :=
  p.pipelines.any fun s => s.isOpen && s.owner == c

/-- `p.heldByComponent c`: `c` is a replacement of a living component. -/
def heldByComponent (p : Page) (c : ComponentId) : Bool :=
  p.components.any fun slot => (slot.map fun k => k.replacements.contains c).getD false

/-- `p.held c`: the component `c` has an owner. -/
def held (p : Page) (c : ComponentId) : Bool :=
  p.heldByHandle c || p.heldByListener c || p.heldByPipeline c || p.heldByComponent c

/-- `p.dropComponent c` drops `c` and removes its listener. -/
def dropComponent (p : Page) (c : ComponentId) : Page :=
  let p := p.releaseForm c
  { p with components := p.components.set c none }

/-- `p.sweepOne c` drops `c` if it has no owner. -/
def sweepOne (p : Page) (c : ComponentId) : Page :=
  if p.held c then p else p.dropComponent c

/-- `p.sweep` drops all components without an owner. A replacement has a larger index than the
component that owns it, so one pass in order is enough. -/
def sweep (p : Page) : Page :=
  (List.range p.components.length).foldl sweepOne p

/-!
## Releasing an observer

Releasing a listener drops its closure while the listener list of the form is borrowed. With an
observer, the components that nothing else owns are dropped too, and each removes its own listener.
If that is in the borrowed list, the removal panics.
-/

/-- `p.releaseConflicts l` lists the components that are dropped when `l` is released and that
listen to the form of `l` themselves. -/
def releaseConflicts (p : Page) (l : ListenerRef) : List ComponentId :=
  let released := (p.removeListener l).sweep
  (List.range p.components.length).filter fun c =>
    (released.component? c).isNone &&
      ((p.component? c).bind (·.listener)).any fun own => own.form == l.form

/-- `p.dropHandle handle` drops a handle. -/
def dropHandle (p : Page) (handle : Nat) : Page :=
  { p with handles := p.handles.set handle none }

/-- `p.addHandle c` adds a handle of `c`. -/
def addHandle (p : Page) (c : ComponentId) : Page :=
  { p with handles := p.handles ++ [some c] }

end Page

end FormSwap
