import FormSwap.Page.Ownership

/-!
# Submit events

`submitWithin` dispatches a submit event to the listeners that the form has at that moment, in
order, whatever the callbacks do to the list. A component's listener prevents the default and, if
the component is alive, calls `handleSubmit`. An observer records the event and runs its reactions,
which may fire nested submit events.
-/

namespace FormSwap.Page

/-- `Firing` is the function that fires a nested submit event. -/
abbrev Firing := Page → FormId → Option Submitter → Page

/-- `react fire (p, e) r` runs the reaction `r` on the event `e`. -/
def react (fire : Firing) : Page × SubmitEvent → Reaction → Page × SubmitEvent
  | (p, e), .prevent => (p, e.prevent)
  | (p, e), .detach c => (p.detach c, e)
  | (p, e), .resubmit c =>
    let (p, e, _) := p.handleSubmit c e
    (p, e)
  | (p, e), .dropHandle handle => ((p.dropHandle handle).sweep, e)
  | (p, e), .submit f submitter => (fire p f submitter, e)

/-- `notify fire (p, e) l` calls the listener `l` with the event `e`. -/
def notify (fire : Firing) : Page × SubmitEvent → Listener → Page × SubmitEvent
  | (p, e), l =>
    match l.role with
    | .component c =>
      match p.component? c with
      | some _ =>
        let (p, e, _) := p.handleSubmit c e.prevent
        (p, e)
      | none => (p, e.prevent)
    | .observer label reactions =>
      let p := { p with heard := p.heard ++ [⟨label, e.submitter, e.prevented⟩] }
      reactions.foldl (react fire) (p, e)

/-- `p.listenersOf f` is the listener list of the form `f`. -/
def listenersOf (p : Page) (f : FormId) : List Listener :=
  ((p.forms[f]?).map (·.listeners)).getD []

/-- `submitWithin n p f submitter` fires a submit event at `f`. Events fired by reactions nest at
most `n` deep. -/
def submitWithin : Nat → Page → FormId → Option Submitter → Page × SubmitEvent
  | 0, p, f, submitter =>
    (p.listenersOf f).foldl (notify fun p _ _ => p) (p, { submitter })
  | n + 1, p, f, submitter =>
    (p.listenersOf f).foldl (notify fun p f submitter => (submitWithin n p f submitter).1)
      (p, { submitter })

end FormSwap.Page
