import FormSwap.Markup.FormData
import FormSwap.Proofs.OpenTag
import Mathlib.Data.List.DropRight

/-!
# Writing and reading attributes

A tag is written with a space before each attribute and double quotes around its value; an empty
value may be omitted with its quotes. `readAttributes` reads this unchanged, if the names satisfy
`IsName` and no value has a double quote. The space after a bare name ends it, and the next
character starts a name, so it is not an equals sign.

Conversely, every name that `readAttributes` reads from any text satisfies `IsName`: it is not
empty, has neither blanks nor `=` nor `/`, and is in lower case.

Main definitions:

- `Markup.IsName`: the names that the reader yields
- `Markup.Writes`: the texts that write a list of attributes

Main results:

- `Markup.Writes.readAttributes_eq`: `readAttributes` of written attributes
- `Markup.isName_of_mem_readAttributes`: every name that is read satisfies `IsName`
- `Markup.not_mem_of_mem_readAttributes`: attributes have no characters that the text does not have
-/

namespace FormSwap

namespace Text

theorem trimStart_trimStart (s : List Char) : trimStart (trimStart s) = trimStart s :=
  List.dropWhile_idempotent isBlank s

theorem trimStart_subset (s : List Char) : trimStart s ⊆ s :=
  (List.dropWhile_sublist isBlank).subset

/-- `toLower` changes upper-case letters only, to lower-case ones. -/
theorem toLower_cases (c : Char) :
    c.toLower = c ∨ 97 ≤ c.toLower.toNat ∧ c.toLower.toNat ≤ 122 := by
  unfold Char.toLower
  split
  · next hupper =>
    obtain ⟨hA, hZ⟩ : 65 ≤ c.toNat ∧ c.toNat ≤ 90 := by
      simpa [UInt32.le_iff_toNat_le] using hupper
    have hshift : (c.val + ('a'.val - 'A'.val)).toNat = c.toNat + 32 := by
      rw [UInt32.toNat_add]
      exact Nat.mod_eq_of_lt (Nat.lt_of_le_of_lt (Nat.add_le_add_right hZ 32) (by decide))
    right
    rw [Char.toNat, hshift]
    omega
  · exact .inl rfl

/-- `toLower` does not change lower-case letters. -/
theorem toLower_of_small {c : Char} (h : 97 ≤ c.toNat) : c.toLower = c := by
  unfold Char.toLower
  split
  · next hupper =>
    have hZ : c.toNat ≤ 90 := by
      simpa [UInt32.le_iff_toNat_le] using hupper.2
    omega
  · rfl

/-- `toLower` yields a character below the lower-case letters only for itself. -/
theorem eq_of_toLower_eq {c x : Char} (hx : x.toNat < 97) (h : c.toLower = x) : c = x := by
  rcases toLower_cases c with hsame | ⟨hsmall, -⟩
  · rw [← hsame, h]
  · rw [h] at hsmall
    omega

end Text

namespace Markup

open FormSwap.Text

variable {name value text s : List Char} {quote : Char} {l : List (String × String)}
  {a : String × String}

/-! ## Names -/

/-- `IsName name`: `name` is not empty, has no character that ends a name, and is in lower case. -/
structure IsName (name : List Char) : Prop where
  ne_nil : name ≠ []
  unbroken : name.any endsName = false
  lower : Http.lower name = name

instance : DecidablePred IsName := fun name =>
  decidable_of_iff (name ≠ [] ∧ name.any endsName = false ∧ Http.lower name = name)
    ⟨fun h => ⟨h.1, h.2.1, h.2.2⟩, fun h => ⟨h.ne_nil, h.unbroken, h.lower⟩⟩

/-- A lower-case letter does not end a name. -/
theorem endsName_of_small {c : Char} (h : 97 ≤ c.toNat ∧ c.toNat ≤ 122) : endsName c = false := by
  have hblank : isBlank c = false := by
    simp only [isBlank, Bool.or_eq_false_iff, Bool.and_eq_false_iff, decide_eq_false_iff_not,
      beq_eq_false_iff_ne]
    omega
  have hassign : c ≠ '=' := by
    rintro rfl
    exact absurd h (by decide)
  have hslash : c ≠ '/' := by
    rintro rfl
    exact absurd h (by decide)
  simp [endsName, hblank, hassign, hslash]

/-- `lower` of a text without characters that end a name is a name. -/
theorem isName_lower (hne : name ≠ []) (hname : name.any endsName = false) :
    IsName (Http.lower name) where
  ne_nil := by simpa [Http.lower] using hne
  unbroken := by
    rw [List.any_eq_false] at hname ⊢
    intro x hx
    obtain ⟨c, hc, rfl⟩ := List.mem_map.1 hx
    rcases toLower_cases c with hsame | hsmall
    · rw [hsame]
      exact hname c hc
    · simp [endsName_of_small hsmall]
  lower := by
    rw [Http.lower, Http.lower, List.map_map]
    refine List.map_congr_left fun c _ => ?_
    show c.toLower.toLower = c.toLower
    rcases toLower_cases c with hsame | hsmall
    · rw [hsame, hsame]
    · exact toLower_of_small hsmall.1

/-- The first character of a name is neither a blank nor an equals sign. -/
theorem exists_cons_of_unbroken (hne : name ≠ []) (hname : name.any endsName = false) :
    ∃ c rest, name = c :: rest ∧ isBlank c = false ∧ c ≠ '=' := by
  obtain ⟨c, rest, rfl⟩ := List.exists_cons_of_ne_nil hne
  simp only [List.any_cons, Bool.or_eq_false_iff, endsName, beq_eq_false_iff_ne] at hname
  exact ⟨c, rest, rfl, hname.1.1.1, hname.1.1.2⟩

theorem IsName.exists_cons (h : IsName name) :
    ∃ c rest, name = c :: rest ∧ isBlank c = false ∧ c ≠ '=' :=
  exists_cons_of_unbroken h.ne_nil h.unbroken

/-- `trimStart` drops the space before a name and nothing else. -/
theorem IsName.trimStart_append (h : IsName name) (text : List Char) :
    trimStart (' ' :: (name ++ text)) = name ++ text := by
  obtain ⟨c, rest, rfl, hblank, -⟩ := h.exists_cons
  have hspace : isBlank ' ' = true := by decide
  rw [List.cons_append, trimStart, List.dropWhile_cons_of_pos hspace]
  exact trimStart_cons_of_not_isBlank hblank _

/-! ## Written attributes -/

/-- `Writes l text`: `text` has each attribute after a space, with its value in double quotes. An
empty value may be omitted. -/
inductive Writes : List (String × String) → List Char → Prop where
  | nil : Writes [] []
  | bare {name : String} {l : List (String × String)} {text : List Char}
      (hname : IsName name.toList) (hrest : Writes l text) :
      Writes ((name, "") :: l) (' ' :: (name.toList ++ text))
  | quoted {name value : String} {l : List (String × String)} {text : List Char}
      (hname : IsName name.toList) (hvalue : '"' ∉ value.toList) (hrest : Writes l text) :
      Writes ((name, value) :: l)
        (' ' :: (name.toList ++ '=' :: '"' :: (value.toList ++ '"' :: text)))

/-- Written attributes start with a space. -/
theorem Writes.isBlank_head (h : Writes l text) : ∀ c ∈ text.head?, isBlank c = true := by
  have hspace : isBlank ' ' = true := by decide
  cases h with
  | nil => simp
  | bare | quoted => simpa using hspace

/-- Written attributes do not start with an equals sign after the space. -/
theorem Writes.not_assigned (h : Writes l text) (rest : List Char) :
    trimStart text ≠ '=' :: rest := by
  cases h with
  | nil => simp
  | bare hname | quoted hname =>
    rw [hname.trimStart_append]
    obtain ⟨c, name, heq, -, hassign⟩ := hname.exists_cons
    rw [heq]
    simp [hassign]

/-- `readItem` of a bare name. -/
theorem readItem_bare (hname : name.any endsName = false)
    (hends : ∀ c ∈ text.head?, endsName c = true)
    (hassign : ∀ rest, trimStart text ≠ '=' :: rest) :
    readItem (name ++ text) = ⟨name, [], trimStart text⟩ := by
  have hall : ∀ c ∈ name, (!endsName c) = true := by simpa using hname
  obtain ⟨htake, hdrop⟩ := span_append hall fun c hc => by simp [hends c hc]
  unfold readItem
  rw [htake, hdrop]
  dsimp only
  split
  · next rest hrest => exact absurd hrest (hassign rest)
  · rfl

/-- `attributesFrom` of a bare name. -/
theorem attributesFrom_bare (hname : IsName name) (hblank : ∀ c ∈ text.head?, isBlank c = true)
    (hassign : ∀ rest, trimStart text ≠ '=' :: rest) :
    attributesFrom (name ++ text) =
      (String.ofList name, "") :: attributesFrom (trimStart text) := by
  rw [attributesFrom, readItem_bare hname.unbroken (fun c hc => endsName_of_isBlank (hblank c hc))
    hassign]
  simp [hname.ne_nil, hname.lower, trimStart_trimStart]

/-- `readAttributes` of written attributes is these attributes. -/
theorem Writes.readAttributes_eq (h : Writes l text) : readAttributes text = l := by
  unfold readAttributes
  induction h with
  | nil =>
    rw [trimStart_nil, attributesFrom]
    rfl
  | bare hname hrest ih =>
    rw [hname.trimStart_append, attributesFrom_bare hname hrest.isBlank_head hrest.not_assigned,
      ih, String.ofList_toList]
  | quoted hname hvalue hrest ih =>
    rw [hname.trimStart_append,
      attributesFrom_quoted hname.ne_nil hname.unbroken (.inl rfl) hvalue, ih, hname.lower,
      String.ofList_toList, String.ofList_toList]

/-! ## Attributes of any text -/

theorem readQuoted_subset (quote : Char) (s : List Char) :
    (readQuoted quote s).1 ⊆ s ∧ (readQuoted quote s).2 ⊆ s := by
  unfold readQuoted
  cases hcut : cutChar? quote s with
  | none => simp
  | some cut =>
    obtain ⟨before, after⟩ := cut
    rw [eq_of_cutChar? hcut, Option.getD_some]
    exact ⟨List.subset_append_left _ _,
      List.subset_append_of_subset_right _ (List.subset_cons_self _ _)⟩

theorem readAssigned_subset (s : List Char) :
    (readAssigned s).1 ⊆ s ∧ (readAssigned s).2 ⊆ s := by
  have hquoted (quote : Char) (rest : List Char) :
      (readQuoted quote rest).1 ⊆ quote :: rest ∧ (readQuoted quote rest).2 ⊆ quote :: rest :=
    ⟨List.subset_cons_of_subset _ (readQuoted_subset quote rest).1,
      List.subset_cons_of_subset _ (readQuoted_subset quote rest).2⟩
  unfold readAssigned
  split
  · exact hquoted _ _
  · exact hquoted _ _
  · exact ⟨(List.takeWhile_sublist _).subset, (List.dropWhile_sublist _).subset⟩

/-- `readItem` yields characters of its text. -/
theorem readItem_subset (s : List Char) :
    (readItem s).name ⊆ s ∧ (readItem s).value ⊆ s ∧ (readItem s).rest ⊆ s := by
  have hname : (s.takeWhile fun c => !endsName c) ⊆ s := (List.takeWhile_sublist _).subset
  have hrest : trimStart (s.dropWhile fun c => !endsName c) ⊆ s :=
    List.Subset.trans (trimStart_subset _) (List.dropWhile_sublist _).subset
  unfold readItem
  dsimp only
  split
  · next rest hassign =>
    have hassigned : trimStart rest ⊆ s := by
      rw [hassign] at hrest
      exact List.Subset.trans (trimStart_subset rest)
        (List.Subset.trans (List.subset_cons_self _ _) hrest)
    obtain ⟨hvalue, hafter⟩ := readAssigned_subset (trimStart rest)
    exact ⟨hname, List.Subset.trans hvalue hassigned, List.Subset.trans hafter hassigned⟩
  · exact ⟨hname, List.nil_subset _, hrest⟩

theorem readItem_unbroken (s : List Char) : (readItem s).name.any endsName = false := by
  have hname : (s.takeWhile fun c => !endsName c).any endsName = false := by
    rw [List.any_eq_false]
    intro c hc
    simpa using List.mem_takeWhile_imp hc
  unfold readItem
  dsimp only
  split <;> exact hname

theorem stepOctet_subset (s : List Char) : stepOctet s ⊆ s := by
  cases s with
  | nil => exact List.nil_subset _
  | cons c rest =>
    simp only [stepOctet]
    split
    · exact List.subset_cons_self _ _
    · exact List.nil_subset _

/-- An attribute that is read has a name that satisfies `IsName`, and no character that the text
does not have, lower-case letters apart. -/
theorem of_mem_attributesFrom (h : a ∈ attributesFrom s) :
    IsName a.1.toList ∧
      ∀ x : Char, x.toNat < 97 → x ∉ s → x ∉ a.1.toList ∧ x ∉ a.2.toList := by
  fun_induction attributesFrom s with
  | case1 => cases h
  | case2 s hs item hempty ih =>
    obtain ⟨hname, hheld⟩ := ih h
    have hsubset : trimStart (stepOctet item.rest) ⊆ s :=
      List.Subset.trans (trimStart_subset _)
        (List.Subset.trans (stepOctet_subset _) (readItem_subset s).2.2)
    exact ⟨hname, fun x hx hnot => hheld x hx fun hmem => hnot (hsubset hmem)⟩
  | case3 s hs item hne ih =>
    obtain ⟨hname, hvalue, hrest⟩ := readItem_subset s
    rcases List.mem_cons.1 h with rfl | hlater
    · have hsome : item.name ≠ [] := by simpa using hne
      refine ⟨by simpa using isName_lower hsome (readItem_unbroken s), fun x hx hnot => ?_⟩
      constructor
      · intro hmem
        obtain ⟨c, hc, hlower⟩ : ∃ c ∈ item.name, c.toLower = x := by
          simpa [Http.lower] using hmem
        exact hnot (hname (eq_of_toLower_eq hx hlower ▸ hc))
      · intro hmem
        exact hnot (hvalue (by simpa using hmem))
    · obtain ⟨hlaterName, hheld⟩ := ih hlater
      have hsubset : trimStart item.rest ⊆ s := List.Subset.trans (trimStart_subset _) hrest
      exact ⟨hlaterName, fun x hx hnot => hheld x hx fun hmem => hnot (hsubset hmem)⟩

/-- Every name that `readAttributes` yields satisfies `IsName`. -/
theorem isName_of_mem_readAttributes (h : a ∈ readAttributes s) : IsName a.1.toList :=
  (of_mem_attributesFrom h).1

/-- `readAttributes` yields no character that the text does not have, lower-case letters apart. -/
theorem not_mem_of_mem_readAttributes (h : a ∈ readAttributes s) {x : Char} (hx : x.toNat < 97)
    (hs : x ∉ s) : x ∉ a.1.toList ∧ x ∉ a.2.toList :=
  (of_mem_attributesFrom h).2 x hx fun hmem => hs (trimStart_subset s hmem)

end Markup

end FormSwap
