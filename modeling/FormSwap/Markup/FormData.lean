import FormSwap.Markup.Fragment

/-!
# The form in a piece of markup

`readForm?` reads the first form of a piece of markup with its named inputs, and `FormData.html`
writes a form as markup.
-/

namespace FormSwap.Markup

open FormSwap.Text

/-- `FormData` is a form element: its action, its method and its fields. -/
structure FormData where
  action : String
  method : String
  fields : List (String × String) := []
deriving DecidableEq, Repr

/-- `readField tag` is the field of an input tag, if it has a name. -/
def readField (tag : List Char) : Option (String × String) :=
  let attributes := readAttributes tag
  (lookup attributes "name").map fun name => (name, (lookup attributes "value").getD "")

/-- `readFields s` reads the fields of the inputs in `s`, in order. -/
def readFields (s : List Char) : List (String × String) :=
  match htag : cutTag? "input".toList s with
  | none => []
  | some (_, tag, rest) =>
    have : rest.length < s.length := length_lt_of_cutTag? htag
    (readField tag).toList ++ readFields rest
termination_by s.length

/-- `readFields` unfolded at the first input of `s`. -/
theorem readFields_eq (s : List Char) :
    readFields s =
      match cutTag? "input".toList s with
      | none => []
      | some (_, tag, rest) => (readField tag).toList ++ readFields rest := by
  rw [readFields]
  split
  · next h => simp only [h]
  · next h => simp only [h]

/-- `readForm? s` is the first form in `s`. A missing action is empty, a missing method is `get`. -/
def readForm? (s : List Char) : Option FormData :=
  (cutTag? "form".toList s).map fun (_, tag, body) =>
    let contents := ((cutPiece? "</form>".toList body).map (·.1)).getD body
    let attributes := readAttributes tag
    { action := (lookup attributes "action").getD ""
      method := (lookup attributes "method").getD "get"
      fields := readFields contents }

/-- `fieldHtml field` is a field as an input element. -/
def fieldHtml (field : String × String) : String :=
  "<input name=\"" ++ field.1 ++ "\" value=\"" ++ field.2 ++ "\">"

/-- `f.html` is the form as markup. -/
def FormData.html (f : FormData) : String :=
  "<form action=\"" ++ f.action ++ "\" method=\"" ++ f.method ++ "\">"
    ++ String.join (f.fields.map fieldHtml) ++ "</form>"

/-- `attributeHtml a` is an attribute as markup; an empty value is not written. -/
def attributeHtml (a : String × String) : String :=
  if a.2.isEmpty then " " ++ a.1 else " " ++ a.1 ++ "=\"" ++ a.2 ++ "\""

/-- `hostHtml attributes inner` is a host as markup. -/
def hostHtml (attributes : List (String × String)) (inner : String) : String :=
  "<" ++ tagName ++ String.join (attributes.map attributeHtml) ++ ">" ++ inner
    ++ "</" ++ tagName ++ ">"

end FormSwap.Markup
