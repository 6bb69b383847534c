import FormSwap.Page.Basic
import FormSwap.Text.Quoted

/-!
# Debug output

The one-line debug texts of a form, of a listener handle and of the runtime services.
-/

namespace FormSwap

/-- `describePair pair` shows a pair with both texts quoted. -/
def describePair (pair : String × String) : String :=
  "(" ++ Text.quoted pair.1 ++ ", " ++ Text.quoted pair.2 ++ ")"

/-- `f.describe` shows a form with its fields and the number of its listeners. -/
def Form.describe (f : Form) : String :=
  "MemoryForm \x7b action: " ++ Text.quoted f.data.action
    ++ ", method: " ++ Text.quoted f.data.method
    ++ ", fields: [" ++ String.intercalate ", " (f.data.fields.map describePair)
    ++ "], listeners: " ++ f.listeners.length.repr ++ " \x7d"

/-- `l.describe` shows the handle of a listener that is registered. -/
def ListenerRef.describe (_ : ListenerRef) : String :=
  "ListenerHandle \x7b active: true \x7d"

/-- `describeSurroundings` shows the runtime of a component, whose fields are opaque. -/
def Page.describeSurroundings : String :=
  "Runtime \x7b transport: \"<transport>\", timer: \"<timer>\", spawner: \"<spawner>\" \x7d"

end FormSwap
