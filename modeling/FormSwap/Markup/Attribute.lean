import FormSwap.Http.Token
import FormSwap.Text.Blank
import FormSwap.Text.Search

/-!
# Attributes of a tag

`readAttributes` reads the text between a tag's name and its `>` as a list of attributes: a bare
name, or a name with a value that is quoted either way or ends at the next blank. Names are in lower
case (ASCII letters only) and may repeat; `lookup` takes the first.

Reading never fails. An item without a name, such as the slash of a self-closing tag, is dropped
together with the octet after it; if that octet starts a character of several octets, reading ends.
-/

namespace FormSwap.Markup

open FormSwap.Text

/-- `lookup attributes name` is the value of the first attribute with this name. -/
def lookup (attributes : List (String × String)) (name : String) : Option String :=
  (attributes.find? fun a => a.1 == name).map (·.2)

/-- `endsName c` holds for the characters that end an attribute's name. -/
def endsName (c : Char) : Bool :=
  isBlank c || c == '=' || c == '/'

/-- `readQuoted quote s` reads up to the closing quote, which may be missing, and returns the
rest. -/
def readQuoted (quote : Char) (s : List Char) : List Char × List Char :=
  (cutChar? quote s).getD (s, [])

/-- `readAssigned s` reads the value at the start of `s` and returns the rest. -/
def readAssigned : List Char → List Char × List Char
  | '"' :: rest => readQuoted '"' rest
  | '\'' :: rest => readQuoted '\'' rest
  | s => (s.takeWhile fun c => !isBlank c, s.dropWhile fun c => !isBlank c)

/-- `Item` is one item of a tag: its name, which may be empty, its value and the rest of the
text. -/
structure Item where
  name : List Char
  value : List Char
  rest : List Char

/-- `readItem s` reads the item at the start of `s`. -/
def readItem (s : List Char) : Item :=
  let name := s.takeWhile fun c => !endsName c
  match trimStart (s.dropWhile fun c => !endsName c) with
  | '=' :: rest =>
    let (value, rest) := readAssigned (trimStart rest)
    ⟨name, value, rest⟩
  | rest => ⟨name, [], rest⟩

/-- `stepOctet s` drops one octet. A text that starts with a character of several octets is dropped
whole. -/
def stepOctet : List Char → List Char
  | [] => []
  | c :: rest => if c.toNat < 0x80 then rest else []

theorem length_stepOctet_le (s : List Char) : (stepOctet s).length ≤ s.length - 1 := by
  cases s with
  | nil => simp [stepOctet]
  | cons c rest => simp only [stepOctet]; split <;> simp

theorem length_readQuoted_le (quote : Char) (s : List Char) :
    (readQuoted quote s).2.length ≤ s.length := by
  unfold readQuoted
  cases h : cutChar? quote s with
  | none => simp
  | some cut =>
    obtain ⟨before, after⟩ := cut
    simp [eq_of_cutChar? h]
    omega

theorem length_readAssigned_le (s : List Char) : (readAssigned s).2.length ≤ s.length := by
  unfold readAssigned
  split
  · exact Nat.le_succ_of_le (length_readQuoted_le _ _)
  · exact Nat.le_succ_of_le (length_readQuoted_le _ _)
  · exact (List.dropWhile_sublist _).length_le

/-- `readItem` consumes at least the name. -/
theorem length_readItem_rest_le (s : List Char) :
    (readItem s).rest.length + (readItem s).name.length ≤ s.length := by
  have split_length : (s.takeWhile fun c => !endsName c).length
      + (s.dropWhile fun c => !endsName c).length = s.length := by
    rw [← List.length_append, List.takeWhile_append_dropWhile]
  have trimmed := length_trimStart_le (s.dropWhile fun c => !endsName c)
  unfold readItem
  simp only
  split
  · next rest hrest =>
    rw [hrest] at trimmed
    have assigned := length_readAssigned_le (trimStart rest)
    have trimmed_rest := length_trimStart_le rest
    simp only [List.length_cons] at trimmed
    simp only
    omega
  · next => simp only; omega

/-- `attributesFrom s` reads the attributes of a text without leading blanks. -/
def attributesFrom (s : List Char) : List (String × String) :=
  if s.isEmpty then []
  else
    let item := readItem s
    if item.name.isEmpty then attributesFrom (trimStart (stepOctet item.rest))
    else
      (String.ofList (Http.lower item.name), String.ofList item.value)
        :: attributesFrom (trimStart item.rest)
termination_by s.length
decreasing_by
  · next hs hn =>
    have item_length := length_readItem_rest_le s
    have step_length := length_stepOctet_le (readItem s).rest
    have trim_length := length_trimStart_le (stepOctet (readItem s).rest)
    have nonempty : 0 < s.length := by
      cases s with
      | nil => simp at hs
      | cons => simp
    omega
  · next hs hn =>
    have item_length := length_readItem_rest_le s
    have trim_length := length_trimStart_le (readItem s).rest
    have nonempty : 0 < (readItem s).name.length := by
      cases hname : (readItem s).name with
      | nil => simp [item, hname] at hn
      | cons => simp
    omega

/-- `readAttributes tag` reads the attributes of a tag, from the text between its name and its
`>`. -/
def readAttributes (tag : List Char) : List (String × String) :=
  attributesFrom (trimStart tag)

end FormSwap.Markup
