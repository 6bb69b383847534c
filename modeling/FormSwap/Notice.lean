import FormSwap.Config.Basic

/-!
# Log entries

`Notice` lists the events that a component logs, each with its level and message.
-/

namespace FormSwap

/-- `Level` is the level of a log entry. -/
inductive Level where
  | debug
  | info
  | warn
  | error
deriving DecidableEq, Repr

/-- `level.name` is the name of a level. -/
def Level.name : Level → String
  | .debug => "debug"
  | .info => "info"
  | .warn => "warn"
  | .error => "error"

/-- `Level.ofName? name` is the level with this name. -/
def Level.ofName? (name : String) : Option Level :=
  [Level.debug, .info, .warn, .error].find? fun l => l.name == name

/-- `LogEntry` is a log entry: its level, its message and named values. -/
structure LogEntry where
  level : Level
  message : String
  fields : List (String × String) := []
deriving DecidableEq, Repr

/-- `Notice` is an event that a component logs. -/
inductive Notice where
  /-- An invalid delay is replaced by zero. -/
  | delayIgnored (text : String)
  | attached (config : Config)
  /-- A submit was ignored because a submission is in flight. -/
  | busy
  /-- A submit was ignored because the component is not attached. -/
  | unattached
  /-- The pipeline could not be spawned. -/
  | notScheduled
  | notMarked (e : DomError)
  | notUnmarked (e : DomError)
  | submitted (fields : Nat)
  /-- The response was dropped because the host is not connected. -/
  | responseDropped
  | submissionFailed (e : SubmitError)
  | notDispatched (e : DomError)
  | notRebound (e : DomError)
  /-- The contents swapped in hold no form. -/
  | formless
  | notMounted (e : ConfigError)
  | detached
deriving DecidableEq, Repr

namespace Notice

/-- `n.level` is the level of a notice. -/
def level : Notice → Level
  | .attached _ | .busy | .unattached | .responseDropped | .formless | .detached => .debug
  | .submitted _ => .info
  | .delayIgnored _ | .notScheduled | .notMarked _ | .notUnmarked _ | .submissionFailed _
  | .notDispatched _ | .notRebound _ | .notMounted _ => .warn

/-- `n.message` is the message of a notice. -/
def message : Notice → String
  | .delayIgnored text =>
    "ignoring invalid " ++ delayAttribute ++ " value " ++ Text.quoted text ++ ", using 0"
  | .attached config =>
    "ajax-form attached (" ++ config.swap.name ++ ", delay " ++ config.delay.text ++ ")"
  | .busy => "ajax-form submit ignored, a submission is already in flight"
  | .unattached => "ajax-form submit ignored, component is not attached"
  | .notScheduled => "ajax-form could not schedule submission: Executor is shutdown"
  | .notMarked e => "ajax-form could not mark host as submitting: " ++ e.message
  | .notUnmarked e => "ajax-form could not clear submitting marker: " ++ e.message
  | .submitted fields => "ajax-form submitted " ++ fields.repr ++ " field(s)"
  | .responseDropped => "ajax-form dropped a response for a host that left the document"
  | .submissionFailed e => "ajax-form submission failed: " ++ e.message
  | .notDispatched e => "ajax-form could not dispatch the ajax-form event: " ++ e.message
  | .notRebound e => "ajax-form could not listen to the swapped form: " ++ e.message
  | .formless => "ajax-form swapped contents hold no form, component is unattached"
  | .notMounted e => "ajax-form could not mount swapped-in element: " ++ e.message
  | .detached => "ajax-form detached"

/-- `n.entry` is the log entry of a notice. -/
def entry (n : Notice) : LogEntry :=
  { level := n.level, message := n.message }

end Notice

end FormSwap
