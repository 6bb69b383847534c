import FormSwap.Duration
import FormSwap.Error
import FormSwap.Text.Blank

/-!
# Configuration

`Config` has the two options of a component: the swap mode, and the delay before the next
submission. `Config.ofAttributes` reads them once from the attributes of the host. An unknown swap
mode is an error; an invalid delay is replaced by zero and reported. `Config.openTag` and
`Config.wrap` write a configuration as markup.
-/

namespace FormSwap

/-- `tagName` is the tag name of a host. -/
def tagName : String := "ajax-form"

/-- `delayAttribute` is the name of the delay attribute, in milliseconds. -/
def delayAttribute : String := "delay"

/-- `swapAttribute` is the name of the swap mode attribute. -/
def swapAttribute : String := "swap"

/-- `submittingAttribute` is the attribute of a host while a submission is in flight. -/
def submittingAttribute : String := "form-submitting"

/-- `maxDelayMillis` is the largest delay, in milliseconds. -/
def maxDelayMillis : Nat := UInt64.size - 1

/-- `SwapMode` says what the response markup replaces. -/
inductive SwapMode where
  /-- The host with its tag. -/
  | outer
  /-- The contents of the host. -/
  | inner
deriving DecidableEq, Repr, Inhabited

/-- `m.name` is the attribute value of a mode. -/
def SwapMode.name : SwapMode → String
  | .outer => "outerHTML"
  | .inner => "innerHTML"

/-- `SwapMode.ofName? value` is the mode with exactly this name. -/
def SwapMode.ofName? (value : String) : Option SwapMode :=
  if value = "outerHTML" then some .outer
  else if value = "innerHTML" then some .inner
  else none

/-- `SwapMode.parse value` is the mode with this name, or an error that quotes `value`. -/
def SwapMode.parse (value : String) : Except ConfigError SwapMode :=
  match ofName? value with
  | some mode => .ok mode
  | none => .error (.invalidSwap value)

/-- `Config` is the configuration of a component. -/
structure Config where
  /-- The time between the end of a submission and the next one. -/
  delay : Duration := 0
  swap : SwapMode := .outer
deriving DecidableEq, Repr, Inhabited

namespace Config

/-- `delayMillis? text` is the number of milliseconds of a delay: blanks around it, an optional plus
sign and digits, at most `maxDelayMillis`. -/
def delayMillis? (text : List Char) : Option Nat :=
  let digits :=
    match Text.trim text with
    | '+' :: rest => rest
    | trimmed => trimmed
  if !digits.isEmpty && digits.all Char.isDigit then
    let n := Nat.ofDigitChars 10 digits 0
    if n ≤ maxDelayMillis then some n else none
  else none

/-- `Resolved` is a configuration with the delay text that was ignored. -/
structure Resolved where
  config : Config
  /-- The text of an invalid delay. -/
  ignoredDelay : Option String := none
deriving DecidableEq, Repr

/-- `ofAttributes lookup` reads the configuration. The swap mode is checked first. -/
def ofAttributes (lookup : String → Option String) : Except ConfigError Resolved := do
  let swap ←
    match lookup swapAttribute with
    | some value => SwapMode.parse value
    | none => .ok .outer
  match lookup delayAttribute with
  | none => .ok { config := { swap } }
  | some text =>
    match delayMillis? text.toList with
    | some n => .ok { config := { delay := .ofMillis n, swap } }
    | none => .ok { config := { swap }, ignoredDelay := some text }

/-- `c.openTag` is the opening tag of a host with this configuration. -/
def openTag (c : Config) : String :=
  "<" ++ tagName ++ " " ++ swapAttribute ++ "='" ++ c.swap.name ++ "' " ++ delayAttribute ++ "='"
    ++ c.delay.millis.repr ++ "'>"

/-- `closeTag` is the closing tag of a host. -/
def closeTag : String :=
  "</" ++ tagName ++ ">"

/-- `c.wrap inner` is a host with this configuration around `inner`. -/
def wrap (c : Config) (inner : String) : String :=
  c.openTag ++ inner ++ closeTag

end Config

end FormSwap
