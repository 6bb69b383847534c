import FormSwap.Gateway
import FormSwap.Page.Action

/-!
# One visit to a page

`Visit.report` creates a page with one form in one host, attaches a component, submits the form once
through a `Gateway`, and runs the page until nothing is pending. All of it is a list of actions;
only the outcome of the request comes from the gateway.
-/

namespace FormSwap

/-- `Visit` is the form with its host's attributes, the submitter, and the gateway. -/
structure Visit where
  form : Markup.FormData
  attributes : List (String × String) := []
  submitter : Option Submitter := none
  /-- The base URL of the page. -/
  base : Option Url := none
  gateway : Gateway

/-- `Visit.Report` is the result of a visit. -/
structure Visit.Report where
  /-- The document right after the submit. -/
  submittingHtml : String
  /-- The page at the end. -/
  page : Page
  component : Component
  received : List Received

namespace Visit

/-- `v.opened` is the page with the form in its host. -/
def opened (v : Visit) : Page :=
  Page.performAll {} [.newForm v.form, .newHost v.attributes (some 0) none false, .append 0 0]

/-- `v.answerRequest p` sends the first request of `p` through the gateway, if there is one. -/
def answerRequest (v : Visit) (p : Page) : Page × List Received :=
  match p.transport.requests with
  | [] => (p, [])
  | request :: _ =>
    let (outcome, received) := v.gateway.send v.base request
    ((p.perform (.deliver 0 outcome)).1, received)

/-- `v.report` runs the visit. -/
def report (v : Visit) : Except ConfigError Report :=
  match v.opened.perform (.create 0) with
  | (_, .failed (.config e)) => .error e
  | (created, _) =>
    match created.perform (.attach 0) with
    | (_, .failed (.config e)) => .error e
    | (attached, _) =>
      let submitted := (attached.perform (.submit 0 v.submitter 0)).1
      let asked := submitted.performAll [.defer, .run]
      let (answered, received) := v.answerRequest asked
      let delay := ((attached.component? 0).map (·.config.delay)).getD 0
      let ended := answered.performAll [.run, .advance delay, .run]
      .ok {
        submittingHtml := submitted.html 0
        page := ended
        component := (ended.component? 0).getD { host := 0, config := {} }
        received }

end Visit

end FormSwap
