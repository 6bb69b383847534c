/-!
# Splitting a text

`cutChar?` and `cutPiece?` split a text at the first occurrence of a character or of a piece of
text. They return the text before it and the text after it.
-/

namespace FormSwap.Text

/-- `dropPiece? piece s` is the rest of `s` if it starts with `piece`. -/
def dropPiece? : List Char → List Char → Option (List Char)
  | [], s => some s
  | _ :: _, [] => none
  | p :: ps, c :: cs => if p = c then dropPiece? ps cs else none

/-- `cutChar? x s` splits `s` at the first occurrence of `x`. -/
def cutChar? (x : Char) : List Char → Option (List Char × List Char)
  | [] => none
  | c :: cs =>
    if c = x then some ([], cs)
    else (cutChar? x cs).map fun cut => (c :: cut.1, cut.2)

/-- `cutPiece? piece s` splits `s` at the first occurrence of `piece`. -/
def cutPiece? (piece : List Char) : List Char → Option (List Char × List Char)
  | [] => (dropPiece? piece []).map fun rest => ([], rest)
  | c :: cs =>
    match dropPiece? piece (c :: cs) with
    | some rest => some ([], rest)
    | none => (cutPiece? piece cs).map fun cut => (c :: cut.1, cut.2)

/-- `beforeChar x s` is `s` up to the first occurrence of `x`, or all of `s`. -/
def beforeChar (x : Char) (s : List Char) : List Char :=
  s.takeWhile (· != x)

/-- `dropPiece?` succeeds exactly on the texts that start with the piece. -/
theorem dropPiece?_eq_some_iff {piece s rest : List Char} :
    dropPiece? piece s = some rest ↔ s = piece ++ rest := by
  induction piece generalizing s with
  | nil => simp [dropPiece?]
  | cons p ps ih =>
    cases s with
    | nil => simp [dropPiece?]
    | cons c cs =>
      by_cases h : p = c
      · simp [dropPiece?, h, ih]
      · simp [dropPiece?, h, Ne.symm h]

/-- `cutChar?` splits the text without loss. -/
theorem eq_of_cutChar? {x : Char} {s before after : List Char}
    (h : cutChar? x s = some (before, after)) : s = before ++ x :: after := by
  induction s generalizing before with
  | nil => cases h
  | cons c cs ih =>
    rw [cutChar?] at h
    split at h
    · cases h; simp_all
    · obtain ⟨cut, hcut, heq⟩ := Option.map_eq_some_iff.1 h
      cases heq
      simp [ih hcut]

/-- `cutChar?` splits at the first occurrence. -/
theorem not_mem_of_cutChar? {x : Char} {s before after : List Char}
    (h : cutChar? x s = some (before, after)) : x ∉ before := by
  induction s generalizing before with
  | nil => cases h
  | cons c cs ih =>
    rw [cutChar?] at h
    split at h
    · cases h; simp
    · next hne =>
      obtain ⟨cut, hcut, heq⟩ := Option.map_eq_some_iff.1 h
      cases heq
      simp only [List.mem_cons, not_or]
      exact ⟨fun he => hne he.symm, ih hcut⟩

/-- `cutChar?` fails exactly if the character does not occur. -/
theorem cutChar?_eq_none_iff {x : Char} {s : List Char} : cutChar? x s = none ↔ x ∉ s := by
  induction s with
  | nil => simp [cutChar?]
  | cons c cs ih =>
    by_cases h : c = x
    · simp [cutChar?, h]
    · simp [cutChar?, h, ih, Ne.symm h]

/-- `cutPiece?` splits the text without loss. -/
theorem eq_of_cutPiece? {piece s before after : List Char}
    (h : cutPiece? piece s = some (before, after)) : s = before ++ piece ++ after := by
  induction s generalizing before with
  | nil =>
    rw [cutPiece?] at h
    obtain ⟨rest, hrest, heq⟩ := Option.map_eq_some_iff.1 h
    cases heq
    simpa using dropPiece?_eq_some_iff.1 hrest
  | cons c cs ih =>
    rw [cutPiece?] at h
    split at h
    · next hrest => cases h; simpa using dropPiece?_eq_some_iff.1 hrest
    · obtain ⟨cut, hcut, heq⟩ := Option.map_eq_some_iff.1 h
      cases heq
      simp [ih hcut]

/-- The text after the piece is no longer than the whole. -/
theorem length_le_of_cutPiece? {piece s before after : List Char}
    (h : cutPiece? piece s = some (before, after)) : after.length ≤ s.length := by
  simp [eq_of_cutPiece? h]
  omega

end FormSwap.Text
