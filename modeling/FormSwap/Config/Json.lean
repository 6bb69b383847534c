import FormSwap.Config.Basic
import FormSwap.Json.Text
import FormSwap.Json.Value

/-!
# Configurations as JSON

`Config.json` writes an object with the delay in milliseconds, capped at the largest delay, and the
swap mode. `Config.ofJson` reads such an object, with any other members, or an array of the two
options in this order. A missing option has its default.
-/

namespace FormSwap.Config

open FormSwap.Json

/-- `c.json` is the configuration as a JSON object. -/
def json (c : Config) : String :=
  "\x7b\"delay\":" ++ (min c.delay.millis maxDelayMillis).repr ++ ",\"swap\":"
    ++ Json.string c.swap.name ++ "\x7d"

/-- `delayOfJson v` is the delay of a number of milliseconds up to the largest. -/
def delayOfJson : Value → Option Duration
  | .number (some n) => if n ≤ maxDelayMillis then some (.ofMillis n) else none
  | _ => none

/-- `swapOfJson v` is the swap mode of its name, or of an object whose only member has that name and
is null. -/
def swapOfJson : Value → Option SwapMode
  | .string (some name) => SwapMode.ofName? name
  | .object [(some name, .null)] => SwapMode.ofName? name
  | _ => none

/-- `Partial` has the options found so far among the members of an object. -/
structure Partial where
  delay : Option Duration := none
  swap : Option SwapMode := none

/-- `ofMembers found members` reads the members in order. Other names are skipped; an option may
occur once. -/
def ofMembers : Partial → List (Option String × Value) → Option Config
  | found, [] => some { delay := found.delay.getD 0, swap := found.swap.getD .outer }
  | found, (name, value) :: rest => do
    let name ← name
    if name = "delay" then
      if found.delay.isSome then none
      else ofMembers { found with delay := some (← delayOfJson value) } rest
    else if name = "swap" then
      if found.swap.isSome then none
      else ofMembers { found with swap := some (← swapOfJson value) } rest
    else ofMembers found rest

/-- `ofValue v` is the configuration of a JSON value. -/
def ofValue : Value → Option Config
  | .object members => ofMembers {} members
  | .array [] => some {}
  | .array [delay] => do some { delay := ← delayOfJson delay }
  | .array [delay, swap] => do some { delay := ← delayOfJson delay, swap := ← swapOfJson swap }
  | _ => none

/-- `ofJson text` is the configuration of a JSON text. -/
def ofJson (text : String) : Option Config :=
  (Json.parse text).bind ofValue

end FormSwap.Config
