import FormSwap.Config.Basic
import FormSwap.Markup.Attribute

/-!
# Markup as text and hosts

`fragments` splits markup into runs of text and top-level hosts. A host ends at the first closing
tag after its opening tag, or at the end of the markup. `Fragment.source` is the markup that a
fragment was split from.
-/

namespace FormSwap.Markup

open FormSwap.Text

/-- `followsTagName c` holds for the characters that may follow a tag's name. -/
def followsTagName (c : Char) : Bool :=
  isBlank c || c == '>' || c == '/'

/-- `dropOpening? name s` is the text after the tag's name, if `s` starts with an opening tag
`name`. -/
def dropOpening? (name s : List Char) : Option (List Char) :=
  match dropPiece? ('<' :: name) s with
  | some (c :: rest) => if followsTagName c then some (c :: rest) else none
  | _ => none

/-- `cutOpening? name s` splits at the first opening tag `name`: the text before the tag, and the
text after its name. -/
def cutOpening? (name : List Char) : List Char → Option (List Char × List Char)
  | [] => none
  | c :: cs =>
    match dropOpening? name (c :: cs) with
    | some rest => some ([], rest)
    | none => (cutOpening? name cs).map fun cut => (c :: cut.1, cut.2)

theorem eq_of_dropOpening? {name s rest : List Char} (h : dropOpening? name s = some rest) :
    s = '<' :: name ++ rest := by
  unfold dropOpening? at h
  split at h
  · next c rest' hdrop =>
    split at h
    · cases h; exact dropPiece?_eq_some_iff.1 hdrop
    · cases h
  · cases h

/-- `cutOpening?` splits the text without loss. -/
theorem eq_of_cutOpening? {name s before after : List Char}
    (h : cutOpening? name s = some (before, after)) : s = before ++ '<' :: name ++ after := by
  induction s generalizing before with
  | nil => cases h
  | cons c cs ih =>
    rw [cutOpening?] at h
    split at h
    · next hdrop => cases h; simpa using eq_of_dropOpening? hdrop
    · obtain ⟨cut, hcut, heq⟩ := Option.map_eq_some_iff.1 h
      cases heq
      simp [ih hcut]

/-- `cutTag? name s` splits at the first opening tag `name`: the text before it, the text between
its name and its `>`, and the text after it. There is no split if this tag has no `>`. -/
def cutTag? (name s : List Char) : Option (List Char × List Char × List Char) :=
  match cutOpening? name s with
  | none => none
  | some (before, after) => (cutChar? '>' after).map fun cut => (before, cut.1, cut.2)

/-- `cutTag?` splits the text without loss. -/
theorem eq_of_cutTag? {name s before tag rest : List Char}
    (h : cutTag? name s = some (before, tag, rest)) :
    s = before ++ '<' :: name ++ tag ++ '>' :: rest := by
  unfold cutTag? at h
  split at h
  · cases h
  · next hopen =>
    obtain ⟨cut, hcut, heq⟩ := Option.map_eq_some_iff.1 h
    cases heq
    simp [eq_of_cutOpening? hopen, eq_of_cutChar? hcut]

/-- The text after the tag is shorter. -/
theorem length_lt_of_cutTag? {name s before tag rest : List Char}
    (h : cutTag? name s = some (before, tag, rest)) : rest.length < s.length := by
  simp [eq_of_cutTag? h]
  omega

/-- `Fragment` is a run of text, or a host. -/
inductive Fragment where
  | text (s : List Char)
  /-- A host with the text of its tag after the name, its contents, and whether it has a closing
  tag. -/
  | host (tag inner : List Char) (closed : Bool)
deriving DecidableEq, Repr

/-- `hostName` is the tag name of a host. -/
def hostName : List Char := tagName.toList

/-- `hostClosing` is the closing tag of a host. -/
def hostClosing : List Char := '<' :: '/' :: hostName ++ ['>']

/-- `f.source` is the markup of a fragment. -/
def Fragment.source : Fragment → List Char
  | .text s => s
  | .host tag inner closed =>
    '<' :: hostName ++ tag ++ '>' :: inner ++ if closed then hostClosing else []

/-- `textRun s` is a run of text, unless it is empty. -/
def textRun (s : List Char) : List Fragment :=
  if s.isEmpty then [] else [.text s]

/-- `fragments s` splits `s` into text and hosts. -/
def fragments (s : List Char) : List Fragment :=
  match htag : cutTag? hostName s with
  | none => textRun s
  | some (before, tag, body) =>
    match hclose : cutPiece? hostClosing body with
    | none => textRun before ++ [.host tag body false]
    | some (inner, rest) =>
      have : rest.length < s.length :=
        Nat.lt_of_le_of_lt (length_le_of_cutPiece? hclose) (length_lt_of_cutTag? htag)
      textRun before ++ .host tag inner true :: fragments rest
termination_by s.length

/-- `fragments` unfolded at the first host of `s`. -/
theorem fragments_eq (s : List Char) :
    fragments s =
      match cutTag? hostName s with
      | none => textRun s
      | some (before, tag, body) =>
        match cutPiece? hostClosing body with
        | none => textRun before ++ [.host tag body false]
        | some (inner, rest) => textRun before ++ .host tag inner true :: fragments rest := by
  rw [fragments]
  split
  · next h => simp only [h]
  · next h =>
    simp only [h]
    split
    · next hclose => simp only [hclose]
    · next hclose => simp only [hclose]

end FormSwap.Markup
